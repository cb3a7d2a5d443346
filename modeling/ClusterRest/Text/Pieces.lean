/-! Texts cut at a character. -/

namespace ClusterRest.Text

/-- A text cut at the first occurrence of a character, which belongs to neither part. -/
def cutChars (mark : Char) : List Char → Option (List Char × List Char)
  | [] => none
  | character :: rest =>
    if character = mark then some ([], rest)
    else (cutChars mark rest).map fun (before, after) => (character :: before, after)

def cut (mark : Char) (text : String) : Option (String × String) :=
  (cutChars mark text.toList).map fun (before, after) => (.ofList before, .ofList after)

/-- The pieces of a text between the occurrences of a character; always at least one. -/
def piecesOf (mark : Char) : List Char → List (List Char)
  | [] => [[]]
  | character :: rest =>
    if character = mark then [] :: piecesOf mark rest
    else match piecesOf mark rest with
      | [] => [[character]]
      | piece :: pieces => (character :: piece) :: pieces

def pieces (mark : Char) (text : String) : List String := (piecesOf mark text.toList).map .ofList

/-- What follows a text at the front of another. -/
def afterStart? (start text : String) : Option String :=
  if start.toList.isPrefixOf text.toList then some (.ofList (text.toList.drop start.length))
  else none

end ClusterRest.Text
