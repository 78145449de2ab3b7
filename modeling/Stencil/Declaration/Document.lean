import Stencil.Declaration.Read
import Stencil.Declaration.Warning
import Stencil.Failure

/-!
# Documents

A document is a text that holds a declaration with at least one group of operations.
Before the text is read, each `$ref` in it is replaced by `ref`, which is how the
structures know the member.
-/

namespace Stencil

/-- The characters of a text with each `$ref` replaced by `ref`, from left to right. -/
def plainReferences : List Char → List Char
  | '$' :: 'r' :: 'e' :: 'f' :: rest => 'r' :: 'e' :: 'f' :: plainReferences rest
  | c :: rest => c :: plainReferences rest
  | [] => []

/-- A declaration that was read from a text, and what there is to say about it. -/
structure Document where
  declaration : Declaration
  warnings : List Declaration.Warning

namespace Document

/-- A text with the key of every reference in its plain form. -/
def plain (text : String) : String := String.ofList (plainReferences text.toList)

/-- The document in a text. -/
def parse (text : String) : Except Failure Document :=
  match Declaration.read (plain text) with
  | .error fault => .error (.invalidJson fault.message)
  | .ok declaration =>
    if (declaration.apis.getD []).isEmpty then .error .notSwagger
    else .ok ⟨declaration, declaration.warnings⟩

end Document

end Stencil
