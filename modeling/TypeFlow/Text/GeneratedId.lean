import TypeFlow.Text.Quoted

/-!
# Generated ids

Ids are drawn one after the other: twelve hexadecimal digits of the number of
the draw, followed by twenty zeros.
-/

namespace TypeFlow.Text

def generatedId (draw : Nat) : String :=
  String.ofList (hexDigits 12 draw ++ List.replicate 20 '0')

/-- The significant part of a generated id. -/
def shortGeneratedId (draw : Nat) : String :=
  String.ofList (hexDigits 12 draw)

end TypeFlow.Text
