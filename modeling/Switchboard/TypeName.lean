/-!
# Type names

The full name of a type is a path of segments joined by `::`, with its type
arguments in angle brackets. The short name leaves out the leading path: what
stands before the first `<` is cut after its last `::`, and everything from that
`<` on stays as it is.
-/

namespace Switchboard.TypeName

/-- Whether a path separator `::` occurs. -/
def hasSeparator : List Char → Bool
  | ':' :: ':' :: _ => true
  | _ :: rest => hasSeparator rest
  | [] => false

/-- What follows the last `::`, or everything if there is none. -/
def lastSegment : List Char → List Char
  | [] => []
  | head :: rest =>
      if hasSeparator rest then lastSegment rest
      else
        match head, rest with
        | ':', ':' :: last => last
        | _, _ => head :: rest

/-- What stands before the first `<`. -/
def base (name : List Char) : List Char := name.takeWhile (· ≠ '<')

/-- Everything from the first `<` on. -/
def arguments (name : List Char) : List Char := name.dropWhile (· ≠ '<')

/-- The name without the path that leads to it. -/
def shortChars (name : List Char) : List Char := lastSegment (base name) ++ arguments name

@[inherit_doc shortChars]
def short (name : String) : String := String.ofList (shortChars name.toList)

theorem base_append_arguments (name : List Char) : base name ++ arguments name = name :=
  List.takeWhile_append_dropWhile

end Switchboard.TypeName
