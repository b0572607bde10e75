/-!
# Cutting and searching text

Pieces of a text between separators, and the places where one text occurs in another. All of it
works on lists of characters; the functions on `String` are their wrappers.

## Main definitions

* `Text.cut?`: the text before and after the first separator.
* `Text.pieces`: the pieces between all separators; there is one more piece than separators.
* `Text.findChars?`, `Text.replaceAll`, `Text.piecesAt`: the same for a separator that is a text.
-/

namespace OpticScene.Text

/-- The characters before and after the first `sep`, if there is one. -/
def cutChars? (sep : Char) : List Char → Option (List Char × List Char)
  | [] => none
  | c :: cs =>
    if c = sep then some ([], cs)
    else (cutChars? sep cs).map fun p => (c :: p.1, p.2)

/-- The text before and after the first `sep`, if there is one. -/
def cut? (sep : Char) (s : String) : Option (String × String) :=
  (cutChars? sep s.toList).map fun p => (String.ofList p.1, String.ofList p.2)

/-- The runs of characters between the separators, empty ones included. -/
def piecesChars (sep : Char) : List Char → List (List Char)
  | [] => [[]]
  | c :: cs =>
    if c = sep then [] :: piecesChars sep cs
    else
      match piecesChars sep cs with
      | [] => [[c]]
      | p :: ps => (c :: p) :: ps

/-- The pieces of a text between the separators, empty ones included. -/
def pieces (sep : Char) (s : String) : List String :=
  (piecesChars sep s.toList).map String.ofList

/-- The number of characters before the first place where `needle` occurs. -/
def findChars? (needle : List Char) : List Char → Option Nat
  | [] => if needle.isEmpty then some 0 else none
  | c :: cs =>
    if needle.isPrefixOf (c :: cs) then some 0 else (findChars? needle cs).map (· + 1)

/-- Whether `needle` occurs in the text. -/
def occursIn (needle haystack : String) : Bool :=
  (findChars? needle.toList haystack.toList).isSome

/-- Every occurrence of the non-empty `needle` is replaced, from left to right without overlap.
`skip` characters still belong to the occurrence last replaced. -/
def replaceChars (needle by_ : List Char) : (skip : Nat) → List Char → List Char
  | _, [] => []
  | skip + 1, _ :: cs => replaceChars needle by_ skip cs
  | 0, c :: cs =>
    if needle.isPrefixOf (c :: cs) then by_ ++ replaceChars needle by_ (needle.length - 1) cs
    else c :: replaceChars needle by_ 0 cs

/-- Every occurrence of `needle` is replaced. An empty `needle` occurs before every character and
at the end. -/
def replaceAll (needle by_ s : String) : String :=
  if needle.isEmpty then
    String.ofList (by_.toList ++ s.toList.flatMap fun c => c :: by_.toList)
  else
    String.ofList (replaceChars needle.toList by_.toList 0 s.toList)

/-- The runs of characters between occurrences of the non-empty `needle`; `skip` as in
`replaceChars`. -/
def piecesAtChars (needle : List Char) : (skip : Nat) → List Char → List (List Char)
  | _, [] => [[]]
  | skip + 1, _ :: cs => piecesAtChars needle skip cs
  | 0, c :: cs =>
    if needle.isPrefixOf (c :: cs) then [] :: piecesAtChars needle (needle.length - 1) cs
    else
      match piecesAtChars needle 0 cs with
      | [] => [[c]]
      | p :: ps => (c :: p) :: ps

/-- The pieces of a text between the occurrences of `needle`. An empty `needle` cuts around every
character. -/
def piecesAt (needle s : String) : List String :=
  if needle.isEmpty then "" :: (s.toList.map fun c => String.ofList [c]) ++ [""]
  else (piecesAtChars needle.toList 0 s.toList).map String.ofList

/-- The maximal runs of characters that `isSep` does not hold of. -/
def words (isSep : Char → Bool) : List Char → List (List Char)
  | [] => []
  | c :: cs =>
    if isSep c then words isSep cs
    else
      match cs with
      | [] => [[c]]
      | d :: _ =>
        if isSep d then [c] :: words isSep cs
        else
          match words isSep cs with
          | [] => [[c]]
          | w :: ws => (c :: w) :: ws

end OpticScene.Text
