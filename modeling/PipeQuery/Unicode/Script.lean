import PipeQuery.Unicode.ScriptRuns

/-!
# Scripts

Characters by script, and the names of the scripts.
-/

set_option autoImplicit false

namespace PipeQuery.Unicode

/-- The codes of the scripts, each with its other names after a sign of equality, in the form in which
they are compared. -/
def scriptNames : List (List Char) := wordsOf
  "Adlm=adlam Aghb=caucasianalbanian Ahom Arab=arabic Armi=imperialaramaic Armn=armenian
  Avst=avestan Bali=balinese Bamu=bamum Bass=bassavah Batk=batak Beng=bengali Bhks=bhaiksuki
  Bopo=bopomofo Brah=brahmi Brai=braille Bugi=buginese Buhd=buhid Cakm=chakma
  Cans=canadianaboriginal Cari=carian Cham Cher=cherokee Chrs=chorasmian Copt=coptic/qaac
  Cpmn=cyprominoan Cprt=cypriot Cyrl=cyrillic Deva=devanagari Diak=divesakuru Dogr=dogra
  Dsrt=deseret Dupl=duployan Egyp=egyptianhieroglyphs Elba=elbasan Elym=elymaic Ethi=ethiopic
  Gara=garay Geor=georgian Glag=glagolitic Gong=gunjalagondi Gonm=masaramgondi Goth=gothic
  Gran=grantha Grek=greek Gujr=gujarati Gukh=gurungkhema Guru=gurmukhi Hang=hangul Hani=han
  Hano=hanunoo Hatr=hatran Hebr=hebrew Hira=hiragana Hluw=anatolianhieroglyphs Hmng=pahawhhmong
  Hmnp=nyiakengpuachuehmong Hung=oldhungarian Ital=olditalic Java=javanese Kali=kayahli
  Kana=katakana Kawi Khar=kharoshthi Khmr=khmer Khoj=khojki Kits=khitansmallscript Knda=kannada
  Krai=kiratrai Kthi=kaithi Lana=taitham Laoo=lao Latn=latin Lepc=lepcha Limb=limbu Lina=lineara
  Linb=linearb Lisu Lyci=lycian Lydi=lydian Mahj=mahajani Maka=makasar Mand=mandaic
  Mani=manichaean Marc=marchen Medf=medefaidrin Mend=mendekikakui Merc=meroiticcursive
  Mero=meroitichieroglyphs Mlym=malayalam Modi Mong=mongolian Mroo=mro Mtei=meeteimayek
  Mult=multani Mymr=myanmar Nagm=nagmundari Nand=nandinagari Narb=oldnortharabian Nbat=nabataean
  Newa Nkoo=nko Nshu=nushu Ogam=ogham Olck=olchiki Onao=olonal Orkh=oldturkic Orya=oriya
  Osge=osage Osma=osmanya Ougr=olduyghur Palm=palmyrene Pauc=paucinhau Perm=oldpermic Phag=phagspa
  Phli=inscriptionalpahlavi Phlp=psalterpahlavi Phnx=phoenician Plrd=miao
  Prti=inscriptionalparthian Rjng=rejang Rohg=hanifirohingya Runr=runic Samr=samaritan
  Sarb=oldsoutharabian Saur=saurashtra Sgnw=signwriting Shaw=shavian Shrd=sharada Sidd=siddham
  Sind=khudawadi Sinh=sinhala Sogd=sogdian Sogo=oldsogdian Sora=sorasompeng Soyo=soyombo
  Sund=sundanese Sunu=sunuwar Sylo=sylotinagri Syrc=syriac Tagb=tagbanwa Takr=takri Tale=taile
  Talu=newtailue Taml=tamil Tang=tangut Tavt=taiviet Telu=telugu Tfng=tifinagh Tglg=tagalog
  Thaa=thaana Thai Tibt=tibetan Tirh=tirhuta Tnsa=tangsa Todr=todhri Toto Tutg=tulutigalari
  Ugar=ugaritic Vaii=vai Vith=vithkuqi Wara=warangciti Wcho=wancho Xpeo=oldpersian Xsux=cuneiform
  Yezi=yezidi Yiii=yi Zanb=zanabazarsquare Zinh=inherited/qaai Zyyy=common"

def namesOfScript (entry : List Char) : List String :=
  (entry.map (fun c => if c == '=' || c == '/' then ' ' else c.toLower) |> String.ofList |> wordsOf).map
    String.ofList

def scriptCode? (name : String) : Option String :=
  (scriptNames.find? (fun entry => (namesOfScript entry).contains name)).map (fun entry =>
    String.ofList (entry.takeWhile Char.isAlpha))

def ofScript (code : String) : CharSet := .ofRuns (· == code) scriptRuns

def script? (name : String) : Option CharSet :=
  (scriptCode? name).map ofScript

end PipeQuery.Unicode
