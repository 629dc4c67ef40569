set_option autoImplicit false

-- Code points that version 17.0 of the standard adds to version 16.0, by what text needs to know of
-- them. The properties of the code points that 16.0 has are taken from the tables of 16.0.

namespace ParserSplice.Unicode

/-- Added code points that leave a mark of their own on a page, written as words. -/
def addedVisible : String :=
  "88F C5C CDC 20C1 2B96 A7CE-A7CF A7D2 A7D4 A7F1 FBC3-FBD2 FD90-FD91 FDC8-FDCE 10940-10959 " ++
  "10EC5-10EC7 10ED0-10ED8 11B61 11B65 11B67 11DB0-11DDB 11DE0-11DE9 16EA0-16EB8 16EBB-16ED3 " ++
  "16FF2-16FF6 187F8-187FF 18D09-18D1E 18D80-18DF2 1CCFA-1CCFC 1CEBA-1CED0 1CEE0-1CEF0 " ++
  "1E6C0-1E6DE 1E6E0-1E6E2 1E6E4-1E6E5 1E6E7-1E6ED 1E6F0-1E6F4 1E6FE-1E6FF 1F6D8 1F777-1F77A " ++
  "1F8D0-1F8D8 1FA54-1FA57 1FA8A 1FA8E 1FAC8 1FACD 1FAEA 1FAEF 1FBFA 2B73A-2B73F 2CEA2-2CEAD " ++
  "323B0-33479"

/-- Added code points that count as letters of an alphabet, written as words. -/
def addedLetters : String :=
  "88F C5C CDC A7CE-A7CF A7D2 A7D4 A7F1 10940-10959 10EC5-10EC7 10EFA-10EFB 11B60-11B67 " ++
  "11DB0-11DDB 16EA0-16EB8 16EBB-16ED3 16FF2-16FF6 187F8-187FF 18D09-18D1E 18D80-18DF2 " ++
  "1E6C0-1E6DE 1E6E0-1E6F5 1E6FE-1E6FF 2B73A-2B73F 2CEA2-2CEAD 323B0-33479"

/-- Added digits and other numbers, written as words. -/
def addedNumbers : String :=
  "11DE0-11DE9 16FF4-16FF6"

end ParserSplice.Unicode
