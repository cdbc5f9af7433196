import TypeFlow.Text.Casing

/-!
# Lower case of a text

Characters are mapped one by one, with two exceptions: the dotted capital I
becomes two characters, and the capital sigma becomes a final sigma when a
character with a case comes before it and none comes after it, ignorable
characters being skipped on both sides.
-/

namespace TypeFlow.Text

/-- Whether the first character that is not skipped has a case. -/
def startsCased (characters : List Char) : Bool :=
  match characters.dropWhile isIgnorable with
  | [] => false
  | character :: _ => isCased character

/-- Lower case of `rest`, which follows the reversed characters `before`. -/
def lowerAfter (before : List Char) : List Char → List Char
  | [] => []
  | character :: rest =>
      let lowered :=
        if character = 'Σ' then
          if startsCased before && !startsCased rest then ['ς'] else ['σ']
        else if character = 'İ' then ['i', '\u0307']
        else [lowerChar character]
      lowered ++ lowerAfter (character :: before) rest

def lower (text : String) : String :=
  String.ofList (lowerAfter [] text.toList)

/-- Two texts that differ in case only. -/
def sameIgnoringCase (left right : String) : Bool :=
  lower left = lower right

end TypeFlow.Text
