/-!
# Reserved words

The words of the Python language that cannot name anything in the accessors.
-/

namespace RegisterMap

def reservedWords : List String :=
  ["False", "None", "True", "and", "as", "assert", "async", "await", "break", "class", "continue",
   "def", "del", "elif", "else", "except", "finally", "for", "from", "global", "if", "import", "in",
   "is", "lambda", "nonlocal", "not", "or", "pass", "raise", "return", "try", "while", "with",
   "yield"]

def isReserved (word : String) : Bool :=
  reservedWords.contains word

end RegisterMap
