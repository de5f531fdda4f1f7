import PipeQuery.Unicode.Script

/-!
# Script extensions

Many characters are used in several scripts, or in few of those that their own script would allow. For
them the scripts in which they are used are listed; any other character is used in its own script. The
table is that of the Unicode character database, version 16.
-/

set_option autoImplicit false

namespace PipeQuery.Unicode

/-- The code points in runs. Where scripts are listed, the label of a run is their codes one after the
other. -/
def scriptListRuns : List (String × Nat) := readRuns
  "183 AvstCariCoptDuplElbaGeorGlagGongGothGrekHaniLatnLydiMahjPermShaw1 516
  BengCyrlDevaLatnLisuThaiToto1 10 BopoLatn1 1 BopoLatn3 1 LatnLisu1 9 LatnThai1 1 BopoLatn1 38
  CherCoptCyrlGrekLatnPermSunuTale1 CherCyrlGrekLatnOsgeSunuTaleTodr1 CherCyrlLatnTfng1
  GlagLatnSunuSyrcThai1 AghbCherCoptCyrlGothGrekLatnOsgeSyrcTfngTodr1 CoptElbaGlagGothKanaLatn1
  CyrlGrekLatnPermTfng1 CoptDuplHebrLatnPermSyrcTaleTfngTodr1
  ArmnCyrlDuplGothGrekHebrLatnPermSyrcTaleTfng1 LatnTfng1 DuplLatnSyrc1 CherCyrlLatnOsge1
  CherLatnTale1 LatnSunu1 EthiLatn1 1 LatnSunu1 CyrlLatnTodr1 1 GrekLatnPermTodr1 12 LatnSyrc1 2
  CherDuplKanaLatnSyrcTfng1 CherDuplLatnSyrc1 LatnSyrc1 7 LatnSunuSyrc1 LatnSyrc1 1 CherLatnSyrc1
  AghbCherGothLatnSunuThai1 16 Grek1 2 Grek1 18 LatnOsge1 5 AghbLatnTodr1 4 Latn13 4 CoptGrek2 269
  CyrlPerm1 CyrlGlag1 CyrlLatn2 CyrlGlag1 257 ArmnGeorGlag1 130 ArabGaraNkooRohgSyrcThaaYezi1 14
  ArabGaraNkooRohgSyrcThaaYezi1 ArabSyrcThaa1 2 AdlmArabGaraNkooRohgSyrcThaaYezi1 32
  AdlmArabMandManiOugrPhlpRohgSogdSyrc1 10 ArabSyrc11 10 ArabThaaYezi10 6 ArabSyrc1 99 ArabRohg1
  636 BengDevaGranGujrGuruKndaLatnMlymNandNewaOryaShrdTamlTeluTirh1
  BengDevaGranGujrGuruKndaLatnMlymNewaOryaTamlTeluTirh1 17
  BengDevaDogrGongGonmGranGujrGuruKndaMahjMlymNandOnaoOryaSindSinhSyloTakrTamlTeluTirh1
  BengDevaDogrGongGonmGranGujrGukhGuruKndaLimbMahjMlymNandOnaoOryaSindSinhSyloTakrTamlTeluTirh1
  DevaDogrKthiMahj10 118 BengCakmSylo10 118 GuruMult10 118 GujrKhoj10 246 GranTaml14 242
  KndaNandTutg10 848 CakmMymrTale10 177 GeorGlagLatn1 1519 Runr3 71 BuhdHanoTagbTglg2 203
  MongPhag2 1 MongPhag1 1226 BengDevaGranKnda1 Deva1 BengDevaGranKnda1 DevaGranKnda1 Deva1
  BengDevaNewaTeluTirh1 BengDevaTelu1 DevaNewaShrd1 BengDevaNewaTelu1 DevaShrd1
  DevaKndaMlymOryaTamlTelu1 Deva1 DevaShrd2 Deva2 DevaShrd1 BengDeva1 DevaNewaTirh1 Deva6
  DevaNandNewa1 BengDevaShrd1 DevaNewa1 Deva1 BengDevaNewaShrd1 Deva4
  BengDevaGranKndaMlymNandOryaSinhTeluTirhTutg1 DevaGran1 DevaGranKndaTutg1 BengDeva2 Beng1
  DevaGran2 Nand1 197 Grek2 54 CyrlLatnSyrc1 1 Syrc1 564 LatnMongPhag1 31 AdlmArab1 10
  CariGeorGlagHungLyciOrkh1 2 CariGrekHungMero1 146 DevaGranLatn1 3366 CoptLatn1 24 AvstOrkh1
  AvstCariGeorHungKthiLydiSamr1 10 Dupl1 4 AdlmArabHung1 1 CyrlGlag1 428 HaniTang16 1
  BopoHangHaniHiraKanaMongYiii1 BopoHangHaniHiraKanaMongPhagYiii1 BopoHangHaniHiraKana1 2 Hani1 1
  BopoHangHaniHiraKanaMongTibtYiii2 BopoHangHaniHiraKanaLisuMongTibtYiii2
  BopoHangHaniHiraKanaYiii6 1 BopoHangHaniHiraKana1 BopoHangHaniHiraKanaYiii8
  BopoHangHaniHiraKana4 10 BopoHani4 2 BopoHangHaniHiraKana1 HiraKana5 1 BopoHangHaniHiraKana1 4
  HaniHiraKana2 Hani2 89 HiraKana4 3 HiraKana1 90 BopoHangHaniHiraKanaYiii1 HiraKana1 147 Hani16
  32 Hani38 9 HaniTang1 48 Hani40 56 Hani49 15 Hani12 51 Hani1 88 Hani25 10 Hani5 96 Hani31 29296
  CyrlGlag1 144 HaniLatn8 296 DevaDogrGujrGuruKhojKndaKthiMahjMlymModiNandShrdSindTakrTirhTutg3
  DevaDogrGujrGuruKhojKndaKthiMahjModiNandShrdSindTakrTirhTutg3
  DevaDogrGujrGuruKhojKthiMahjModiSindTakrTirh2 DevaDogrGujrGuruKhojKthiMahjModiShrdSindTakrTirh1
  DevaDogrGujrGuruKhojKthiMahjModiSindTakrTirh1 183 BengDevaTutg1 1 DevaTaml1 58 KaliLatnMymr1 160
  BugiJava1 21358 ArabNkoo2 178 ArabThaa1 10 ArabThaa1 71 BopoHangHaniHiraKana2 282
  BopoHangHaniHiraKanaYiii5 10 HiraKana1 45 HiraKana2 352 CpmnCprtLinb2 CprtLinb1 4 CprtLinaLinb45
  3 CprtLinb9 416 ArabCopt28 2038 ManiOugr1 2062 GranTaml1 1 GranTaml1 55 GranTaml2 3219 GranTaml2
  1 GranTaml1 40140 Dupl4 5820 Hani18 7902 Hani2 986542"

def scriptCodes : List Char → List String
  | a :: b :: c :: d :: rest => String.ofList [a, b, c, d] :: scriptCodes rest
  | _ => []

def listedScripts : CharSet := .ofRuns (· != "") scriptListRuns

def scriptExtensions? (name : String) : Option CharSet :=
  (scriptCode? name).map (fun code =>
    ((ofScript code).without listedScripts).union
      (.ofRuns (fun label => (scriptCodes label.toList).contains code) scriptListRuns))

end PipeQuery.Unicode
