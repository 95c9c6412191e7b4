/-! Where one text occurs inside another: at the start, at the end, or anywhere. -/

namespace TypedQuery.Text

/-- The needle is found at some position of the text; an empty needle is found in every text. -/
def occursIn (needle : List Char) : List Char → Bool
  | [] => needle.isEmpty
  | character :: rest => needle.isPrefixOf (character :: rest) || occursIn needle rest

def startsWith (text needle : String) : Bool :=
  needle.toList.isPrefixOf text.toList

def endsWith (text needle : String) : Bool :=
  needle.toList.isSuffixOf text.toList

def contains (text needle : String) : Bool :=
  occursIn needle.toList text.toList

end TypedQuery.Text
