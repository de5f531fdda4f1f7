import PipeQuery.Unicode.CharSet

/-!
# Ages

Which version of the Unicode character database was the first to assign a code point, up to version 16.
-/

set_option autoImplicit false

namespace PipeQuery.Unicode

def ageLetters : List (String × String) :=
  [("1.1", "A"), ("2.0", "B"), ("2.1", "C"), ("3.0", "D"), ("3.1", "E"), ("3.2", "F"), ("4.0", "G"),
   ("4.1", "H"), ("5.0", "I"), ("5.1", "J"), ("5.2", "K"), ("6.0", "L"), ("6.1", "M"), ("6.2", "N"),
   ("6.3", "O"), ("7.0", "P"), ("8.0", "Q"), ("9.0", "R"), ("10.0", "S"), ("11.0", "T"),
   ("12.0", "U"), ("12.1", "V"), ("13.0", "W"), ("14.0", "X"), ("15.0", "Y"), ("15.1", "Z"),
   ("16.0", "a")]

/-- The letters for the versions in which the code points in order were assigned, each with the length
of a run. What is not assigned has no letter. -/
def ageRuns : List (String × Nat) := readRuns
  "A502 D4 A30 D8 F1 G1 D18 G3 H11 I14 A89 D5 G2 A47 D1 A10 D5 G17 A70 D9 F1 G8 H5 G3 A2 D1 F13 J4
  A2 J2 2 A1 I3 A1 P1 4 A7 1 A1 1 A20 1 A44 J1 A7 D1 F2 A1 D1 A1 D1 A1 D1 A1 D1 A18 E2 F1 G5 H4 D1
  A12 D1 A66 D1 A12 D1 A41 J1 D2 F2 D4 A53 F2 A2 F2 A2 F2 I1 A28 D2 A8 H2 A2 I6 F16 I4 J16 K2 L2
  P8 1 A38 2 A7 T1 A39 T1 A1 D1 2 P2 M1 1 B17 H1 B13 A10 I1 A9 B1 H3 8 A27 4 T1 A5 11 G4 M1 P1 J5
  H1 A1 G9 J5 A1 O1 X1 H1 A1 L1 A26 J5 A19 D3 G3 H6 L1 A14 F2 A72 D2 A5 D1 A15 D1 A30 G2 A10 D5 G1
  D14 1 D30 G3 D27 2 G3 H30 J18 D49 F1 14 I59 2 T3 K46 2 K15 1 L28 2 L1 1 S11 5 X31 1 X2 5 a1 X8
  M1 P1 M11 P6 Q2 X1 R8 W10 X11 T1 R15 Q1 M27 P1 K1 A3 G1 A53 L2 A18 K1 L1 A5 K1 L2 A25 J2 L5 P1
  K2 I2 H1 I2 P1 A3 1 A8 2 A2 2 A22 1 A7 1 A1 3 A4 2 A1 G1 A7 2 A2 2 A3 H1 8 A1 4 A2 1 A5 2 A21 K1
  S2 T1 2 G1 A1 G1 1 A6 4 A2 2 A22 1 A7 1 A2 1 A2 1 A2 2 A1 1 A5 4 A2 2 A3 3 J1 7 A4 1 A1 7 A15 J1
  T1 10 A3 1 A7 G1 A1 1 A3 1 A22 1 A7 1 A2 1 A5 2 A10 1 A3 1 A3 2 A1 15 A1 G3 2 A10 M1 G1 7 Q1 S6
  1 A3 1 A8 2 A2 2 A22 1 A7 1 A2 1 G1 A4 2 A8 J1 2 A2 2 A3 7 W1 A2 4 A2 1 A3 J2 2 A11 G1 L6 10 A2
  1 A6 3 A3 1 A4 3 A2 1 A1 1 A2 3 A2 3 A3 3 A8 H1 A3 4 A5 3 A3 1 A4 2 J1 6 A1 14 H1 A12 G8 5 P1 A3
  T1 A8 1 A3 1 A23 1 A10 P1 A5 2 X1 J1 A7 1 A3 1 A4 7 A2 1 J2 Q1 2 X1 2 A2 J2 2 A10 7 U1 J8 R1 P1
  A2 T1 A8 1 A3 1 A23 1 A10 1 A5 2 G2 A7 1 A3 1 A4 7 A2 6 X1 A1 1 A2 I2 2 A10 1 I2 Y1 12 S1 P1 A2
  W1 A8 1 A3 1 A23 L1 A16 L1 S2 J1 A6 J1 1 A3 1 A4 L1 R1 4 R3 A1 R7 Q1 A2 J2 2 A10 J6 R3 J7 1 W1
  D2 1 D18 3 D24 1 D9 1 D1 2 D7 3 D1 4 D6 1 D1 1 D8 6 P10 2 D3 12 A58 4 A29 37 A2 1 A1 1 U1 A2 U1
  A1 1 U1 A1 U6 A4 U1 A7 U1 A3 1 A1 1 A1 U2 A2 U1 A13 U1 A3 2 A5 1 A1 1 A6 Y1 1 A10 2 A2 M2 32 B72
  1 B33 D1 J2 4 B27 L4 B6 D1 B1 1 B21 D3 B7 D1 B1 D3 1 D15 1 J1 D1 H2 J3 K4 L2 37 D34 J1 D5 J1 D2
  J1 D7 J3 D4 J6 D26 J64 K4 J2 A38 1 M1 5 M1 2 A39 F2 H2 A1 H1 M3 A90 K5 A68 K5 A82 K6 D7 H1 D63
  H1 D1 1 D4 2 D7 1 D1 1 D4 2 D39 H1 D1 1 D4 2 D31 H1 D1 1 D4 2 D7 1 D1 1 D4 2 D7 H1 D7 1 D23 H1
  D31 H1 D1 1 D4 2 D7 H1 D39 H1 D19 2 L2 H2 D28 3 H26 6 D85 Q1 2 Q6 2 K1 D630 K9 D29 3 D81 P8 7
  F13 X1 F7 X1 9 X1 F23 9 F20 12 F13 1 F3 1 F2 12 D93 G1 2 D10 6 G10 6 D15 X1 D10 6 D88 T1 7 D42
  J1 5 K70 10 G29 P2 1 G12 4 G12 4 G1 3 G42 2 G5 11 H42 K2 4 H26 6 H10 K1 3 H2 G32 H28 2 H2 K63 1
  K29 2 K11 6 K10 6 K14 2 P15 W2 X14 49 I76 X1 1 a2 I45 X2 a1 J43 M3 J12 M6 L52 8 L4 J56 3 J15 3
  J51 R9 a2 5 T43 2 T3 M8 8 K35 M4 S1 P2 U1 5 G108 H88 I7 J28 P15 S4 X1 R1 L1 K1 I2 A155 B1 J4 A90
  J6 A22 2 A6 2 A38 2 A6 2 A8 1 A1 1 A1 1 A1 1 A31 2 A53 1 A15 1 A14 2 A6 1 A19 2 A3 1 A9 1 A47 D1
  A23 F1 D6 F5 G2 H2 F1 H7 F5 J1 1 O4 A7 F1 2 A27 1 H5 L8 3 A11 B1 C1 D3 F2 H4 K3 L1 N1 P3 Q1 S1
  X1 15 A18 D2 F7 H1 I4 J1 15 A57 D2 G1 H1 F15 H1 I2 J1 K3 A48 D1 I1 J4 K1 Q2 4 A91 D9 F12 A242
  F14 A1 D1 A121 D1 F1 D30 F52 G2 H11 I12 K1 L11 P7 R4 S1 A37 D2 a3 22 A11 21 A139 F20 G1 A150 F10
  A80 D8 F8 A20 G2 F2 H1 D1 A86 D2 F12 H2 F10 G8 H11 J1 K2 G2 H16 I1 J10 K3 J4 K10 L1 K19 L1 K1 L4
  K24 P1 A4 L1 A4 L2 A28 L1 A35 L1 A1 L1 A4 L3 A1 K1 A7 L2 A7 F14 A31 L3 A24 L1 A14 L1 H7 I4 M1 J1
  M1 L2 F28 J4 F16 D256 F512 G14 H6 I7 J5 I4 J41 P3 J5 K5 P26 2 P32 1 W1 P34 T3 P12 U1 P8 S1 T25
  Q4 T15 U1 H47 X1 H47 X1 I13 J3 K1 J3 I4 J6 K2 H107 K7 M2 5 H45 1 M1 5 M1 2 H54 M2 7 H1 L1 14 L1
  H23 9 H7 1 H7 1 H7 1 H7 1 H7 1 H7 1 H7 1 H7 1 J32 H24 J4 H2 J19 K1 M10 P7 R2 S5 T5 U1 W3 X11 34
  D26 1 D89 12 D214 26 D12 Z4 A56 D3 F3 D1 A1 1 A84 F2 2 A6 F2 A94 F1 5 A40 J1 S1 T1 1 A94 1 A16
  D24 L3 W5 H16 J20 a2 9 Z1 F16 A29 G2 1 A36 K12 G1 F15 A28 G2 H1 A50 F15 A12 G4 A47 V1 A119 G4
  A99 G2 A31 G1 D6582 W10 G64 A20902 H22 J8 K8 M1 Q9 S21 T5 W13 X3 D1165 3 D18 F2 D16 F1 D12 F1 D3
  F1 D1 9 K48 J300 20 J32 L2 J18 M8 J28 P6 Q1 M1 K88 8 H23 I4 J5 I2 J107 L2 Q1 L2 M2 P12 L10 M1 P3
  R1 T1 P2 Q6 T2 U6 X2 U5 W4 a3 2 X2 1 X1 1 X5 a3 21 X3 W2 P1 M2 L1 J5 H44 W1 3 K10 6 I56 8 J69 R1
  8 J12 6 K28 Q2 T2 J84 11 J1 K29 3 K78 1 K11 4 K2 P31 1 J55 9 J14 2 J10 2 J4 K28 P4 K67 24 K5 M23
  10 L6 2 L6 2 L6 9 L7 1 L7 1 P48 Q4 P2 U2 W4 4 Q80 K46 2 K10 6 B11172 12 K23 4 K49 4 B2048 A6702
  M2 F59 K3 2 H106 38 A7 12 A5 5 D1 A25 1 A5 1 A1 1 A2 1 A2 1 A108 L16 X1 16 A365 X16 A64 2 A54 7
  X1 E32 A12 F1 G1 X2 F16 H10 6 A4 J3 P7 Q2 A21 F2 G2 A10 1 A19 1 A4 4 A3 F1 A1 1 A135 2 A1 1 A94
  F2 A94 3 A6 2 A6 2 A6 2 A3 3 A7 1 A7 10 D3 C1 A3 G12 1 G26 1 G19 1 G2 1 G15 2 G14 34 G123 5 G3 4
  G45 3 G9 H75 P2 R2 1 J12 W1 3 P1 47 J46 130 J29 3 J49 15 P28 4 E31 P1 E4 9 S3 E27 5 P43 5 G30 1
  G1 H36 4 H14 42 E38 G2 E38 G80 2 G10 6 R36 4 R36 4 P40 8 P52 11 P1 X11 1 X15 1 X7 1 X2 1 X11 1
  X15 1 X7 1 X2 3 a52 12 P311 9 P22 10 P8 24 X6 1 X42 1 X9 69 G6 2 G1 1 G44 1 G2 3 G1 2 G1 K22 1
  K9 P63 8 P9 48 Q19 1 Q2 5 Q5 I26 K2 3 I1 J26 5 J1 64 M56 4 Q2 M2 Q16 2 Q46 H4 1 H2 5 H8 1 H3 1
  H27 T2 2 H3 4 H9 T1 7 H9 7 K32 P32 32 P39 4 P12 9 K54 3 K29 2 K27 5 K8 P18 7 P4 12 P7 80 K73 55
  Q51 13 Q51 7 Q6 T40 8 T10 6 a38 3 a29 8 a2 208 K31 1 W42 1 W3 2 W2 16 a3 55 a1 Y3 T40 8 T42 22
  X26 38 W28 20 U23 9 L78 4 L30 X6 9 P1 K66 X1 10 T1 2 M25 7 M10 6 M53 1 M14 T3 W1 8 P39 9 M73 Q4
  P1 W2 M10 P1 Q5 1 P20 11 P18 1 P43 R1 Y3 62 Q7 1 Q1 1 Q4 1 Q15 1 Q11 6 P59 5 P10 6 Q1 P3 1 P8 2
  P2 2 P22 1 P7 1 P2 1 P5 1 T1 P9 2 P2 2 P3 2 Q1 6 P1 5 P7 2 P7 3 P5 11 a10 1 a1 2 a1 1 a38 1 a10
  1 a1 2 a1 1 a4 1 a10 1 a2 8 a2 29 R90 W1 R1 1 R1 T1 U1 W2 30 P72 8 P10 166 P54 2 P18 Q20 34 P69
  11 P10 6 R13 19 M56 U1 X1 6 M10 6 a20 28 Q26 T1 2 Q15 4 Q16 X7 185 T60 100 P83 12 P1 W7 2 W1 2
  W8 1 W2 1 W30 1 W2 2 W12 9 W10 70 U8 2 U46 2 U11 27 S72 8 S52 U2 S23 T1 S5 13 X16 P57 7 Y10 182
  a34 14 a10 6 R9 1 R45 1 R14 10 R29 3 R32 2 R22 1 R14 73 S7 1 S2 1 S44 3 S1 1 S2 1 S9 8 S10 6 T6
  1 T2 1 T37 1 T2 1 T6 7 T10 310 T25 7 Y17 1 Y41 3 Y28 a1 85 W1 15 U50 13 U1 I879 P42 Q1 102 I99
  P12 1 I4 P1 11 Q196 2636 X99 13 K1071 Y1 U9 Y29 10 a3995 5 Q583 6841 a58 1734 L569 7 P31 1 P10 4
  P2 X79 1 X10 6 P30 2 P6 10 P70 10 P10 1 P7 1 P21 5 P19 432 a58 198 T91 101 M69 U6 4 U1 M47 U9 7
  M17 64 R1 S1 U2 W1 11 W2 14 R6125 T5 U6 8 R755 W483 41 a1 W9 8935 X4 1 X7 1 X2 1 L2 S285 X4 15
  Y1 29 U3 2 Y1 14 U4 8 S396 2308 P107 5 P13 3 P9 7 P10 2 P8 3932 a250 6 a436 76 X46 2 X23 9 X116
  60 E246 10 E39 2 J1 E180 Q11 X2 21 H70 122 Y20 12 T20 12 G87 9 I18 T7 135 E85 1 E71 1 E2 2 E1 2
  E2 2 E4 1 E12 1 E1 1 E4 G1 E2 1 E65 1 E4 2 E8 1 E7 1 E28 1 E4 1 E5 1 E1 3 E7 1 E338 H2 2 E290 I2
  2 E50 Q652 15 Q5 1 Q15 1104 X31 6 Y6 213 R7 1 R17 2 R7 1 R2 1 R5 5 Y62 33 Y1 112 U45 3 U14 2 U10
  4 U2 320 X31 17 U58 5 U1 464 Y42 214 a43 4 a1 480 X7 1 X4 1 X2 1 X15 1 P197 2 P16 41 R75 U1 4
  R10 4 R2 785 T68 76 U61 194 M4 1 M27 1 M2 1 M1 2 M1 1 M10 1 M4 1 M1 1 M1 6 M1 4 M1 1 M1 1 M1 1
  M3 1 M2 1 M1 2 M1 1 M1 1 M1 1 M1 1 M1 1 M2 1 M1 2 M4 1 M7 1 M4 1 M4 1 M1 1 M10 1 M17 5 M3 1 M5 1
  M17 52 M2 270 J44 4 J100 12 L15 2 L14 P1 1 L15 1 L15 P22 10 K11 P2 W3 K31 T1 L1 K1 L11 K1 L1 K1
  L2 K1 L3 K1 L3 K5 L8 K1 L7 K1 L10 M2 U1 W3 L9 K1 L1 K2 L2 K1 L10 K4 L2 K1 L10 R18 W1 56 L26 K1
  L2 13 K34 L9 R1 4 K9 7 L2 14 S6 154 L33 P12 Q3 L6 P1 L70 P1 Q2 L20 P12 L37 P1 L5 P4 Q5 P12 L17
  P7 Q8 L63 P1 L1 P1 L182 P1 L4 P2 Q1 L62 P2 M4 P7 Q5 L24 P18 R1 P41 R1 P86 L5 M1 L16 M1 L3 M1 L1
  M1 L1 M1 L1 M1 L3 M1 L6 M2 L4 M1 L1 M2 L4 M1 L12 P2 Q2 L11 P48 L70 P10 Q1 R2 S2 U1 W2 4 Y1 X3
  P13 3 P4 R3 S2 T1 U1 W2 3 L116 Y3 4 Y5 P85 T4 Y1 6 U12 4 X1 15 P12 4 P56 8 P10 6 P40 8 P30 2 W2
  a10 4 a2 62 S12 W1 U3 Q9 R6 S1 R8 S8 R1 S2 R12 U1 R12 S1 T3 R15 S13 T5 U1 W1 T4 W2 X1 T1 U1 T4
  Q5 R13 S6 T11 W2 U6 W3 U2 T10 U6 Q1 T2 U8 W1 X1 U3 S23 T25 U84 12 T14 2 U4 W1 Y3 U3 X2 3 U3 W4
  Y2 a1 5 a1 U6 W19 X4 Y3 W7 X4 Y3 a1 Y1 W3 X3 a1 7 Y2 W7 X3 Y2 a1 2 a1 X8 Y1 a1 6 X7 Y2 7 W147 1
  W55 a37 W10 1028 B2 E42711 W7 X2 32 K4149 X4 Y1 6 L222 2 Q5762 14 S7473 15 Z622 2466 E542 1504
  B2 W4939 5 Y4192 56398 B2 65534 B2 65534 B2 65534 B2 65534 B2 65534 B2 65534 B2 65534 B2 65534
  B2 65534 B2 65534 B2 1 E1 30 E96 128 G240 65038 B131074"

/-- Whether a name is one of a version: its number, or a letter before the number without its point. -/
def namesVersion (version name : String) : Bool :=
  name == version || name == String.ofList ('v' :: version.toList.filter (· != '.'))

def age? (name : String) : Option CharSet :=
  (ageLetters.findIdx? (fun entry => namesVersion entry.1 name)).map (fun last =>
    let letters := (ageLetters.take (last + 1)).map Prod.snd
    .ofRuns letters.contains ageRuns)

end PipeQuery.Unicode
