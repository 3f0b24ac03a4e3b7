import AuditTrail.Text.CharClass
import AuditTrail.Text.Property.Combining

/-! # Derived properties

Properties that follow from others but for a list of exceptions, and among them the classes of
characters that decide where a text may be cut between two characters, two words or two
sentences.
-/

namespace AuditTrail.Text.CharClass

open Property

def codes (s : String) : CharClass := ranges (.ofText s)

/-- The characters of some ranges that are in none of others. -/
def without (a : Ranges) (b : List Ranges) : CharClass :=
  difference (ranges a) (unions (b.map ranges))

/-! ## Changes of case -/

def changedByLower : CharClass :=
  difference (union (ranges uppercase) (ranges titlecaseLetter)) <| codes
    "3D2-3D4 2102 2107 210B-210D 2110-2112 2115 2119-211D 2124 2128 212C-212D 2130-2131 2133
    213E-213F 2145 1D400-1D419 1D434-1D44D 1D468-1D481 1D49C 1D49E-1D49F 1D4A2 1D4A5-1D4A6
    1D4A9-1D4AC 1D4AE-1D4B5 1D4D0-1D4E9 1D504-1D505 1D507-1D50A 1D50D-1D514 1D516-1D51C
    1D538-1D539 1D53B-1D53E 1D540-1D544 1D546 1D54A-1D550 1D56C-1D585 1D5A0-1D5B9 1D5D4-1D5ED
    1D608-1D621 1D63C-1D655 1D670-1D689 1D6A8-1D6C0 1D6E2-1D6FA 1D71C-1D734 1D756-1D76E
    1D790-1D7A8 1D7CA 1F130-1F149 1F150-1F169 1F170-1F189"

def changedByUpper : CharClass :=
  union (ranges titlecaseLetter) <| difference (ranges lowercase) <| codes
    "AA BA 138 18D 19B 1AA-1AB 1BA 1BE 221 234-239 255 258 25A 25D-25F 262 264 267 26D-26E 270
    273-274 276-27C 27E-27F 281 284-286 28D-291 293 295-29C 29F-2B8 2C0-2C1 2E0-2E4 37A 3FC 560
    588 10FC 1D00-1D78 1D7A-1D7C 1D7E-1D8D 1D8F-1DBF 1E9C-1E9D 1E9F 2071 207F 2090-209C 210A
    210E-210F 2113 212F 2134 2139 213C-213D 2146-2149 2C71 2C74 2C77-2C7D 2CE4 A69C-A69D A730-A731
    A770-A778 A78E A795 A7AF A7D3 A7D5 A7F2-A7F4 A7F8-A7FA AB30-AB52 AB54-AB5A AB5C-AB69 10780
    10783-10785 10787-107B0 107B2-107BA 1D41A-1D433 1D44E-1D454 1D456-1D467 1D482-1D49B
    1D4B6-1D4B9 1D4BB 1D4BD-1D4C3 1D4C5-1D4CF 1D4EA-1D503 1D51E-1D537 1D552-1D56B 1D586-1D59F
    1D5BA-1D5D3 1D5EE-1D607 1D622-1D63B 1D656-1D66F 1D68A-1D6A5 1D6C2-1D6DA 1D6DC-1D6E1
    1D6FC-1D714 1D716-1D71B 1D736-1D74E 1D750-1D755 1D770-1D788 1D78A-1D78F 1D7AA-1D7C2
    1D7C4-1D7C9 1D7CB 1DF00-1DF09 1DF0B-1DF1E 1DF25-1DF2A 1E030-1E06D"

/-- The letters of Georgian have no title case of their own. -/
def changedByTitle : CharClass :=
  union (codes "1C4 1C7 1CA 1F1") <|
    difference changedByUpper (union (ranges titlecaseLetter) (codes "10D0-10FA 10FD-10FF"))

/-- The letters of Cherokee fold to upper case. -/
def changedByFolding : CharClass :=
  union (difference changedByLower (codes "13A0-13F5")) <| codes
    "B5 DF 149 17F 345 3C2 3D0-3D1 3D5-3D6 3F0-3F1 3F5 587 13F8-13FD 1C80-1C88 1E9A-1E9B 1F80-1F87
    1F90-1F97 1FA0-1FA7 1FB2-1FB4 1FB7 1FC2-1FC4 1FC7 1FF2-1FF4 1FF7 AB70-ABBF FB00-FB06 FB13-FB17"

/-! ## Properties without a value -/

def letters : List Ranges :=
  [uppercaseLetter, lowercaseLetter, titlecaseLetter, modifierLetter, otherLetter, letterNumber]

def derivedBinaries : List (List String × CharClass) :=
  [(["bidim", "bidimirrored"], codes
    "28-29 3C 3E 5B 5D 7B 7D AB BB F3A-F3D 169B-169C 2039-203A 2045-2046 207D-207E 208D-208E 2140
    2201-2204 2208-220D 2211 2215-2216 221A-221D 221F-2222 2224 2226 222B-2233 2239 223B-224C
    2252-2255 225F-2260 2262 2264-226B 226E-228C 228F-2292 2298 22A2-22A3 22A6-22B8 22BE-22BF
    22C9-22CD 22D0-22D1 22D6-22ED 22F0-22FF 2308-230B 2320-2321 2329-232A 2768-2775 27C0 27C3-27C6
    27C8-27C9 27CB-27CD 27D3-27D6 27DC-27DE 27E2-27EF 2983-2998 299B-29A0 29A2-29AF 29B8 29C0-29C5
    29C9 29CE-29D2 29D4-29D5 29D8-29DC 29E1 29E3-29E5 29E8-29E9 29F4-29F9 29FC-29FD 2A0A-2A1C
    2A1E-2A21 2A24 2A26 2A29 2A2B-2A2E 2A34-2A35 2A3C-2A3E 2A57-2A58 2A64-2A65 2A6A-2A6D 2A6F-2A70
    2A73-2A74 2A79-2AA3 2AA6-2AAD 2AAF-2AD6 2ADC 2ADE 2AE2-2AE6 2AEC-2AEE 2AF3 2AF7-2AFB 2AFD 2BFE
    2E02-2E05 2E09-2E0A 2E0C-2E0D 2E1C-2E1D 2E20-2E29 2E55-2E5C 3008-3011 3014-301B FE59-FE5E
    FE64-FE65 FF08-FF09 FF1C FF1E FF3B FF3D FF5B FF5D FF5F-FF60 FF62-FF63 1D6DB 1D715 1D74F 1D789
    1D7C3"),
   (["cwl", "changeswhenlowercased"], changedByLower),
   (["cwu", "changeswhenuppercased"], changedByUpper),
   (["cwt", "changeswhentitlecased"], changedByTitle),
   (["cwcf", "changeswhencasefolded"], changedByFolding),
   (["cwcm", "changeswhencasemapped"],
    unions [changedByLower, changedByUpper, changedByTitle]),
   (["grbase", "graphemebase"], complement <| unions <| [control, Property.format, privateUse,
    unassigned, lineSeparator, paragraphSeparator, graphemeExtend].map ranges),
   (["grlink", "graphemelink"], unions <|
    (combiningClasses.filter fun c => c.1 == 9).map fun c => ranges c.2),
   (["hyphen"], codes "2D AD 58A 1806 2010-2011 2E17 30FB FE63 FF0D FF65"),
   (["idsb", "idsbinaryoperator"], codes "2FF0-2FF1 2FF4-2FFB"),
   (["idst", "idstrinaryoperator"], codes "2FF2-2FF3"),
   (["oalpha", "otheralphabetic"], without alphabetic letters),
   (["odi", "otherdefaultignorablecodepoint"],
    without defaultIgnorableCodePoint [Property.format, variationSelector]),
   (["ogrext", "othergraphemeextend"], without graphemeExtend [nonspacingMark, enclosingMark]),
   (["oidc", "otheridcontinue"], without iDContinue
    [iDStart, nonspacingMark, spacingMark, decimalNumber, connectorPunctuation]),
   (["oids", "otheridstart"], without iDStart letters),
   (["olower", "otherlowercase"], without lowercase [lowercaseLetter]),
   (["omath", "othermath"], without math [mathSymbol]),
   (["oupper", "otheruppercase"], without uppercase [uppercaseLetter])]

/-! ## Hangul syllables -/

/-- The syllables whose final consonant is one of those from `first` to `last`. There are 28 to
each pair of a consonant and a vowel, none of them the first. -/
def syllables (first last : Nat) : CharClass :=
  ranges ⟨(List.range 399).map fun k => (0xAC00 + 28 * k + first, 0xAC00 + 28 * k + last)⟩

/-! ## Breaks between characters -/

def clusterExtend : CharClass := unions [ranges graphemeExtend, ranges emojiModifier]

def clusterSpacing : CharClass :=
  union (codes "E33 EB3") <| difference (ranges spacingMark) <| unions [ranges graphemeExtend,
    codes "102B-102C 1038 1062-1064 1067-106D 1083 1087-108C 108F 109A-109C 1A61 1A63-1A64 AA7B
      AA7D 11720-11721"]

def clusterBreaks : List (List String × CharClass) :=
  [(["cn", "control"], codes
    "0-9 B-C E-1F 7F-9F AD 61C 180E 200B 200E-200F 2028-202E 2060-206F FEFF FFF0-FFFB
    13430-1343F 1BCA0-1BCA3 1D173-1D17A E0000-E001F E0080-E00FF E01F0-E0FFF"),
   (["cr"], one '\r'),
   (["ex", "extend"], clusterExtend),
   (["l"], codes "1100-115F A960-A97C"),
   (["lf"], one '\n'),
   (["lv"], syllables 0 0),
   (["lvt"], syllables 1 27),
   (["pp", "prepend"], codes
    "600-605 6DD 70F 890-891 8E2 D4E 110BD 110CD 111C2-111C3 1193F 11941 11A3A 11A84-11A89 11D46
    11F02"),
   (["ri", "regionalindicator"], ranges regionalIndicator),
   (["sm", "spacingmark"], clusterSpacing),
   (["t"], codes "11A8-11FF D7CB-D7FB"),
   (["v"], codes "1160-11A7 D7B0-D7C6"),
   (["zwj"], codes "200D")]

/-! ## Breaks between words -/

def wordExtend : CharClass :=
  unions [ranges graphemeExtend, ranges spacingMark, ranges emojiModifier]

def hebrewLetter : CharClass := codes
  "5D0-5EA 5EF-5F2 FB1D FB1F-FB28 FB2A-FB36 FB38-FB3C FB3E FB40-FB41 FB43-FB44 FB46-FB4F"

def wordKatakana : CharClass := codes
  "3031-3035 309B-309C 30A0-30FA 30FC-30FF 31F0-31FF 32D0-32FE 3300-3357 FF66-FF9D 1AFF0-1AFF3
  1AFF5-1AFFB 1AFFD-1AFFE 1B000 1B120-1B122 1B155 1B164-1B167"

def hiragana : CharClass := codes "3041-3096 309D-309F 1B001-1B11F 1B132 1B150-1B152 1F200"

/-- The letters of scripts written without blanks between words. -/
def unspacedLetter : CharClass := unions
  [ranges ideographic, wordKatakana, hiragana, codes
    "E01-E30 E32-E33 E40-E46 E81-E82 E84 E86-E8A E8C-EA3 EA5 EA7-EB0 EB2-EB3 EBD EC0-EC4 EC6
    EDC-EDF 1000-102A 103F 1050-1055 105A-105D 1061 1065-1066 106E-1070 1075-1081 108E 1780-17B3
    17D7 17DC 1950-196D 1970-1974 1980-19AB 19B0-19C9 1A20-1A54 1AA7 A9E0-A9E4 A9E6-A9EF
    A9FA-A9FE AA60-AA76 AA7A AA7E-AAAF AAB1 AAB5-AAB6 AAB9-AABD AAC0 AAC2 AADB-AADD 11700-1171A
    11740-11746"]

def wordLetter : CharClass :=
  union
    (codes "2C2-2C5 2D2-2D7 2DE-2DF 2E5-2EB 2ED 2EF-2FF 55A-55C 55E 58A 5F3 A708-A716 A720-A721
      A789-A78A AB5B")
    (difference (ranges alphabetic) (unions [hebrewLetter, unspacedLetter, wordExtend]))

def wordBreaks : List (List String × CharClass) :=
  [(["cr"], one '\r'),
   (["dq", "doublequote"], codes "22"),
   (["ex", "extendnumlet"], codes "5F 202F 203F-2040 2054 FE33-FE34 FE4D-FE4F FF3F"),
   (["extend"], wordExtend),
   (["fo", "format"], difference (ranges Property.format) (union wordExtend (codes "200B 200D"))),
   (["hl", "hebrewletter"], hebrewLetter),
   (["ka", "katakana"], wordKatakana),
   (["le", "aletter"], wordLetter),
   (["lf"], one '\n'),
   (["mb", "midnumlet"], codes "2E 2018-2019 2024 FE52 FF07 FF0E"),
   (["ml", "midletter"], codes "3A B7 387 55F 5F4 2027 FE13 FE55 FF1A"),
   (["mn", "midnum"], codes
    "2C 3B 37E 589 60C-60D 66C 7F8 2044 FE10 FE14 FE50 FE54 FF0C FF1B"),
   (["nl", "newline"], codes "B-C 85 2028-2029"),
   (["nu", "numeric"], union (ranges decimalNumber) (codes "66B")),
   (["ri", "regionalindicator"], ranges regionalIndicator),
   (["sq", "singlequote"], codes "27"),
   (["wsegspace"], difference (ranges spaceSeparator) (codes "A0 2007 202F")),
   (["zwj"], codes "200D")]

/-! ## Breaks between sentences -/

def sentenceExtend : CharClass :=
  unions [ranges graphemeExtend, ranges spacingMark, codes "200D"]

/-- Georgian letters have case and yet open no sentence by it. -/
def sentenceLower : CharClass :=
  difference (ranges lowercase) (union (ranges graphemeExtend) (codes "10D0-10FA 10FD-10FF"))

def sentenceUpper : CharClass :=
  difference (union (ranges titlecaseLetter) (ranges uppercase)) (codes "1C90-1CBA 1CBD-1CBF")

def sentenceSeparator : CharClass := codes "85 2028-2029"

def fullStop : CharClass := codes "2E 2024 FE52 FF0E"

def sentenceBreaks : List (List String × CharClass) :=
  [(["at", "aterm"], fullStop),
   (["cl", "close"], unions [ranges openPunctuation, ranges closePunctuation,
    ranges initialPunctuation, ranges finalPunctuation,
    codes "22 27 275B-2760 2E00-2E01 2E06-2E08 2E0B 1F676-1F678"]),
   (["cr"], one '\r'),
   (["ex", "extend"], sentenceExtend),
   (["fo", "format"], difference (ranges Property.format) sentenceExtend),
   (["le", "oletter"], difference (union (ranges alphabetic) (codes "5F3")) <|
    unions [sentenceLower, sentenceUpper, sentenceExtend]),
   (["lf"], one '\n'),
   (["lo", "lower"], sentenceLower),
   (["nu", "numeric"], union (ranges decimalNumber) (codes "66B-66C")),
   (["sc", "scontinue"], codes
    "2C-2D 3A 55D 60C-60D 7F8 1802 1808 2013-2014 3001 FE10-FE11 FE13 FE31-FE32 FE50-FE51 FE55
    FE58 FE63 FF0C-FF0D FF1A FF64"),
   (["se", "sep"], sentenceSeparator),
   (["sp"], difference (ranges whiteSpace) (union sentenceSeparator (codes "A D"))),
   (["st", "sterm"], difference (ranges sentenceTerminal) fullStop),
   (["up", "upper"], sentenceUpper)]

end AuditTrail.Text.CharClass
