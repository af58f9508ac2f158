import Backtrack.Text.Property.Binary

/-!
Break properties: the classes of code points that decide where a text may be
divided into user-perceived characters, words and sentences.
-/

namespace Backtrack
namespace Text
namespace Property

/-- Classes for the division into user-perceived characters. -/
def graphemeBreaks : List (List String × Definition) :=
  [(["control", "cn"],
      { tables := ["0-9 b-c e-1f 7f-9f ad 61c 180e 200b 200e-200f 2028-202e 2060-206f feff fff0-fffb
          13430-1343f 1bca0-1bca3 1d173-1d17a e0000-e001f e0080-e00ff e01f0-e0fff"] }),
    (["cr"], { tables := ["d"] }),
    (["lf"], { tables := ["a"] }),
    (["extend", "ex"],
      { categories := [.nonspacingMark, .enclosingMark]
        tables := [otherGraphemeExtend, "1f3fb-1f3ff"] }),
    (["l"], { tables := ["1100-115f a960-a97c"] }),
    (["v"], { tables := ["1160-11a7 d7b0-d7c6 16d63 16d67-16d6a"] }),
    (["t"], { tables := ["11a8-11ff d7cb-d7fb"] }),
    (["lv"], { tables := ["ac00-d788/1c"] }),
    (["lvt"], { tables := ["ac00-d7a3"], except := ["ac00-d788/1c"] }),
    (["prepend", "pp"],
      { tables := ["600-605 6dd 70f 890-891 8e2 d4e 110bd 110cd 111c2-111c3 113d1 1193f 11941 11a3a
          11a84-11a89 11d46 11f02"] }),
    (["regionalindicator", "ri"], { tables := ["1f1e6-1f1ff"] }),
    (["spacingmark", "sm"],
      { categories := [.spacingMark]
        tables := ["e33 eb3"]
        except := [otherGraphemeExtend,
         "102b-102c 1038 1062-1064 1067-106d 1083 1087-108c 108f 109a-109c 1a61 1a63-1a64
          aa7b aa7d 11720-11721"] }),
    (["zwj"], { tables := ["200d"] })]

/-- Classes for the division into words. -/
def wordBreaks : List (List String × Definition) :=
  [(["aletter", "le"],
      { categories := [.uppercaseLetter, .lowercaseLetter, .titlecaseLetter, .modifierLetter, .otherLetter,
         .letterNumber]
        tables := [otherAlphabetic, otherLowercase, otherUppercase,
         "2c2-2c5 2d2-2d7 2de-2df 2e5-2eb 2ed 2ef-2ff 55a-55c 55e 58a 5f3 a708-a716 a720-a721
          a789-a78a ab5b"]
        except := [Category.table .nonspacingMark, Category.table .spacingMark,
         Category.table .enclosingMark, otherGraphemeExtend,
         "5d0-5ea 5ef-5f2 e01-e30 e32-e33 e40-e46 e81-e82 e84 e86-e8a e8c-ea3 ea5 ea7-eb0
          eb2-eb3 ebd ec0-ec4 ec6 edc-edf 1000-102a 103f 1050-1055 105a-105d 1061 1065-1066
          106e-1070 1075-1081 108e 1780-17b3 17d7 17dc 1950-196d 1970-1974 1980-19ab
          19b0-19c9 1a20-1a54 1aa7 3006-3007 3021-3029 3031-3035 3038-303a 3041-3096
          309d-309f 30a1-30fa 30fc-30ff 31f0-31ff 3400-4dbf 4e00-9fff a9e0-a9e4 a9e6-a9ef
          a9fa-a9fe aa60-aa76 aa7a aa7e-aaaf aab1 aab5-aab6 aab9-aabd aac0 aac2 aadb-aadd
          f900-fa6d fa70-fad9 fb1d fb1f-fb28 fb2a-fb36 fb38-fb3c fb3e fb40-fb41 fb43-fb44
          fb46-fb4f ff66-ff9d 11700-1171a 11740-11746 17000-187f7 18800-18cd5 18cff-18d08
          1aff0-1aff3 1aff5-1affb 1affd-1affe 1b000-1b122 1b132 1b150-1b152 1b155 1b164-1b167
          1b170-1b2fb 20000-2a6df 2a700-2b739 2b740-2b81d 2b820-2cea1 2ceb0-2ebe0 2ebf0-2ee5d
          2f800-2fa1d 30000-3134a 31350-323af"] }),
    (["cr"], { tables := ["d"] }),
    (["doublequote", "dq"], { tables := ["22"] }),
    (["extend"],
      { categories := [.nonspacingMark, .enclosingMark, .spacingMark]
        tables := [otherGraphemeExtend, "1f3fb-1f3ff"] }),
    (["extendnumlet", "ex"],
      { tables := ["5f 202f 203f-2040 2054 fe33-fe34 fe4d-fe4f ff3f"] }),
    (["format", "fo"], { categories := [.format], except := ["200b-200d e0020-e007f"] }),
    (["hebrewletter", "hl"],
      { tables := ["5d0-5ea 5ef-5f2 fb1d fb1f-fb28 fb2a-fb36 fb38-fb3c fb3e fb40-fb41 fb43-fb44
          fb46-fb4f"] }),
    (["katakana", "ka"],
      { tables := ["3031-3035 309b-309c 30a0-30fa 30fc-30ff 31f0-31ff 32d0-32fe 3300-3357 ff66-ff9d
          1aff0-1aff3 1aff5-1affb 1affd-1affe 1b000 1b120-1b122 1b155 1b164-1b167"] }),
    (["lf"], { tables := ["a"] }),
    (["midletter", "ml"], { tables := ["3a b7 387 55f 5f4 2027 fe13 fe55 ff1a"] }),
    (["midnum", "mn"],
      { tables := ["2c 3b 37e 589 60c-60d 66c 7f8 2044 fe10 fe14 fe50 fe54 ff0c ff1b"] }),
    (["midnumlet", "mb"], { tables := ["2e 2018-2019 2024 fe52 ff07 ff0e"] }),
    (["newline", "nl"], { tables := ["b-c 85 2028-2029"] }),
    (["numeric", "nu"], { categories := [.decimalNumber], tables := ["66b"] }),
    (["regionalindicator", "ri"], { tables := ["1f1e6-1f1ff"] }),
    (["singlequote", "sq"], { tables := ["27"] }),
    (["wsegspace"], { tables := ["20 1680 2000-2006 2008-200a 205f 3000"] }),
    (["zwj"], { tables := ["200d"] })]

/-- Classes for the division into sentences. -/
def sentenceBreaks : List (List String × Definition) :=
  [(["aterm", "at"], { tables := ["2e 2024 fe52 ff0e"] }),
    (["close", "cl"],
      { categories := [.openPunctuation, .closePunctuation, .initialPunctuation, .finalPunctuation]
        tables := ["22 27 275b-2760 2e00-2e01 2e06-2e08 2e0b 1f676-1f678"] }),
    (["cr"], { tables := ["d"] }),
    (["extend", "ex"],
      { categories := [.nonspacingMark, .enclosingMark, .spacingMark]
        tables := [otherGraphemeExtend, "200d"] }),
    (["format", "fo"], { categories := [.format], except := ["200c-200d e0020-e007f"] }),
    (["lf"], { tables := ["a"] }),
    (["lower", "lo"],
      { categories := [.lowercaseLetter]
        tables := [otherLowercase]
        except := ["345 10d0-10fa 10fd-10ff"] }),
    (["numeric", "nu"], { categories := [.decimalNumber], tables := ["66b-66c"] }),
    (["oletter", "le"],
      { categories := [.otherLetter, .modifierLetter, .letterNumber]
        tables := [otherAlphabetic, otherLowercase, otherUppercase,
         "5f3 10d0-10fa 10fd-10ff 1c90-1cba 1cbd-1cbf"]
        except := [Category.table .nonspacingMark, Category.table .spacingMark,
         Category.table .enclosingMark, otherGraphemeExtend, otherLowercase, otherUppercase] }),
    (["scontinue", "sc"],
      { tables := ["2c-2d 3a-3b 37e 55d 60c-60d 7f8 1802 1808 2013-2014 3001 fe10-fe11 fe13-fe14
          fe31-fe32 fe50-fe51 fe54-fe55 fe58 fe63 ff0c-ff0d ff1a-ff1b ff64"] }),
    (["sep", "se"], { tables := ["85 2028-2029"] }),
    (["sp", "sp"], { tables := ["9 b-c 20 a0 1680 2000-200a 202f 205f 3000"] }),
    (["sterm", "st"],
      { tables := ["21 3f 589 61d-61f 6d4 700-702 7f9 837 839 83d-83e 964-965 104a-104b 1362 1367-1368
          166e 1735-1736 17d4-17d5 1803 1809 1944-1945 1aa8-1aab 1b4e-1b4f 1b5a-1b5b
          1b5e-1b5f 1b7d-1b7f 1c3b-1c3c 1c7e-1c7f 203c-203d 2047-2049 2cf9-2cfb 2e2e 2e3c
          2e53-2e54 3002 a4ff a60e-a60f a6f3 a6f7 a876-a877 a8ce-a8cf a92f a9c8-a9c9
          aa5d-aa5f aaf0-aaf1 abeb fe12 fe15-fe16 fe56-fe57 ff01 ff1f ff61 10a56-10a57
          10f55-10f59 10f86-10f89 11047-11048 110be-110c1 11141-11143 111c5-111c6 111cd
          111de-111df 11238-11239 1123b-1123c 112a9 113d4-113d5 1144b-1144c 115c2-115c3
          115c9-115d7 11641-11642 1173c-1173e 11944 11946 11a42-11a43 11a9b-11a9c 11c41-11c42
          11ef7-11ef8 11f43-11f44 16a6e-16a6f 16af5 16b37-16b38 16b44 16d6e-16d6f 16e98 1bc9f
          1da88"] }),
    (["upper", "up"],
      { categories := [.uppercaseLetter, .titlecaseLetter]
        tables := [otherUppercase]
        except := ["1c90-1cba 1cbd-1cbf"] })]

end Property
end Text
end Backtrack
