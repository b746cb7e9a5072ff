import Dialect.Error
import Dialect.Text.Blank
import Dialect.Text.Split

/-!
Reading a field path: `.a.b.c`, with blanks around it ignored and every segment non-empty.
-/

namespace Dialect.FieldPath

/-- Reads a path. Errors name the trimmed text. -/
def read (text : String) : Except Error FieldPath :=
  let trimmed := Text.trimList text.toList
  match trimmed with
  | '.' :: rest =>
    let parts := Text.split '.' rest
    if parts.any List.isEmpty then .error (.field (String.ofList trimmed) .emptySegment)
    else .ok ⟨parts.map String.ofList⟩
  | _ => .error (.field (String.ofList trimmed) .noLeadingDot)

end Dialect.FieldPath
