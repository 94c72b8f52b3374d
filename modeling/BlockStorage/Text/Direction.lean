import BlockStorage.Text.Mark

/-!
The direction in which characters are written.

The table of a class holds its characters above ASCII. Marks are in no table, and code points without a
character may stand in any.
-/

namespace BlockStorage.Text

/-- What a character does to the direction of a text. -/
inductive Direction where
  | leftToRight | rightToLeft | arabicLetter | arabicNumber | europeanNumber | sign | unit
  | separator | boundary | mark | neutral
deriving DecidableEq, Repr

namespace Direction

/-- The letters of right-to-left scripts but Arabic. -/
def rightToLeftRuns : List Run := readRuns [
  "5BE-5F4 7C0-7F5 7FA-85E 200F FB1D-FB28 FB2A-FB4F 10800-1091B 10920-10B35 10B40-10CFF",
  "10D40-10D65 10D6F-10D8F 10E80-10EB1 10F00-10F27 10F70-10FF6 1E800-1E95F"]

/-- The letters of Arabic and scripts that go with it. -/
def arabicLetterRuns : List Run := readRuns [
  "608 60B 60D 61B-64A 66D-6D5 6E5-6E6 6EE-6EF 6FA-7B1 860-88F 8A0-8C9 FB50-FBC2 FBD3-FD3D",
  "FD50-FD8F FD92-FDC7 FDF0-FDFC FE70-FEFC 10D00-10D23 10EC2-10EC7 10F30-10F59 1EC71-1EEBB"]

/-- The digits of Arabic. -/
def arabicNumberRuns : List Run := readRuns [
  "600-605 660-669 66B-66C 6DD 890-891 8E2 10D30-10D39 10E60-10E7E"]

/-- The European digits above ASCII. -/
def europeanNumberRuns : List Run := readRuns [
  "B2-B3 B9 6F0-6F9 2070 2074-2079 2080-2089 2488-249B FF10-FF19 102E1-102FB 1CCF0-1CCF9",
  "1D7CE-1D7FF 1F100-1F10A 1FBF0-1FBF9"]

/-- The signs above ASCII in front of European numbers. -/
def signRuns : List Run := readRuns [
  "207A-207B 208A-208B 2212 FB29 FE62-FE63 FF0B FF0D"]

/-- The units above ASCII around European numbers. -/
def unitRuns : List Run := readRuns [
  "A2-A5 B0-B1 58F 609-60A 66A 9F2-9F3 9FB AF1 BF9 E3F 17DB 2030-2034 20A0-20C1 212E 2213",
  "A838-A839 FE5F FE69-FE6A FF03-FF05 FFE0-FFE1 FFE5-FFE6 11FDD-11FE0 1E2FF"]

/-- The separators above ASCII within numbers. -/
def separatorRuns : List Run := readRuns [
  "A0 60C 202F 2044 FE50 FE52 FE55 FF0C FF0E-FF0F FF1A"]

/-- The characters above ASCII that do not show. -/
def boundaryRuns : List Run := readRuns [
  "80-84 86-9F AD 180E 200B-200D 2060-2064 206A-206F FEFF 1BCA0-1BCA3 1D173-1D17A E0001-E007F"]

/-- The other characters above ASCII without a direction. -/
def neutralRuns : List Run := readRuns [
  "85 A1 A6-A9 AB-AC AE-AF B4 B6-B8 BB-BF D7 F7 2B9-2BA 2C2-2CF 2D2-2DF 2E5-2ED 2EF-2FF 374-375",
  "37E 384-385 387 3F6 58A-58E 606-607 60E-60F 6DE 6E9 7F6-7F9 BF3-BF8 BFA C78-C7E F3A-F3D",
  "1390-1399 1400 1680 169B-169C 17F0-180A 1940-1945 19DE-19FF 1FBD 1FBF-1FC1 1FCD-1FCF",
  "1FDD-1FDF 1FED-1FEF 1FFD-200A 2010-202E 2035-2043 2045-205F 2066-2069 207C-207E 208C-208E",
  "2100-2101 2103-2106 2108-2109 2114 2116-2118 211E-2123 2125 2127 2129 213A-213B 2140-2144",
  "214A-214D 2150-215F 2189-2211 2214-2335 237B-2394 2396-2487 24EA-26AB 26AD-27FF 2900-2BFF",
  "2CE5-2CEA 2CF9-2CFF 2E00-3004 3008-3020 3030 3036-3037 303D-303F 309B-309C 30A0 30FB",
  "31C0-31EF 321D-321E 3250-325F 327C-327E 32B1-32BF 32CC-32CF 3377-337A 33DE-33DF 33FF",
  "4DC0-4DFF A490-A4C6 A60D-A60F A673-A67F A700-A721 A788 A828-A82B A874-A877 AB6A-AB6B",
  "FBC3-FBD2 FD3E-FD4F FD90-FD91 FDC8-FDCF FDFD-FE4F FE51 FE54 FE56-FE5E FE60-FE61 FE64-FE68",
  "FE6B FF01-FF02 FF06-FF0A FF1B-FF20 FF3B-FF40 FF5B-FF65 FFE2-FFE4 FFE8-FFFD 10101 10140-1018C",
  "10190-101A0 1091F 10B39-10B3F 10D6E 10ED0-10ED8 11052-11065 11660-1166C 11FD5-11FDC",
  "11FE1-11FF1 16FE2 1CC00-1CCEF 1CCFA-1CEF0 1D1E9-1D245 1D300-1D356 1D6DB 1D715 1D74F 1D789",
  "1D7C3 1EEF0-1F0F5 1F10B-1F10F 1F12F 1F16A-1F16F 1F1AD 1F260-1FBEF 1FBFA"]

/-- The classes with their tables. -/
def tables : List (Direction × List Run) :=
  [(.rightToLeft, rightToLeftRuns), (.arabicLetter, arabicLetterRuns),
    (.arabicNumber, arabicNumberRuns), (.europeanNumber, europeanNumberRuns), (.sign, signRuns),
    (.unit, unitRuns), (.separator, separatorRuns), (.boundary, boundaryRuns),
    (.neutral, neutralRuns)]

/-- The marks that are written like letters. -/
def letterMarks : List Nat := [0xCBF, 0xCC6, 0x11A07, 0x11A08, 0x11C3F]

/-- The class of a character of ASCII. -/
def ofAscii (c : Char) : Direction :=
  if c.isAlpha then .leftToRight
  else if c.isDigit then .europeanNumber
  else if c = '+' || c = '-' then .sign
  else if c = '#' || c = '$' || c = '%' then .unit
  else if c = ',' || c = '.' || c = '/' || c = ':' then .separator
  else .neutral

/-- The class of a character. -/
def ofChar (c : Char) : Direction :=
  if c.toNat < 0x80 then ofAscii c
  else if letterMarks.contains c.toNat then .leftToRight
  else if isNonspacing c then .mark
  else ((tables.find? fun (_, runs) => isIn runs c).map Prod.fst).getD .leftToRight

end Direction

end BlockStorage.Text
