/-! Blank characters and trimming. -/

namespace ClusterRest.Text

/-- The characters with the Unicode property White_Space. -/
def isBlank (character : Char) : Bool :=
  let code := character.toNat
  (0x09 ≤ code && code ≤ 0x0D) || code == 0x20 || code == 0x85 || code == 0xA0 || code == 0x1680 ||
    (0x2000 ≤ code && code ≤ 0x200A) || code == 0x2028 || code == 0x2029 || code == 0x202F ||
    code == 0x205F || code == 0x3000

def trimStartChars (characters : List Char) : List Char := characters.dropWhile isBlank

def trimEndChars (characters : List Char) : List Char :=
  (characters.reverse.dropWhile isBlank).reverse

def trimChars (characters : List Char) : List Char := trimEndChars (trimStartChars characters)

def trimStart (text : String) : String := .ofList (trimStartChars text.toList)

def trim (text : String) : String := .ofList (trimChars text.toList)

/-- Whether a text is empty or holds blanks only. -/
def isAllBlank (text : String) : Bool := text.toList.all isBlank

end ClusterRest.Text
