import Stencil.Failure
import Stencil.Keyed
import Stencil.Language.CSharp
import Stencil.Language.TypeScript
import Stencil.Text.Quoted

/-!
# Registry of languages

Languages by the keys under which a run asks for them, in the order of the keys.
-/

namespace Stencil

/-- Languages by their keys. -/
structure Registry where
  entries : Keyed Language := []

namespace Registry

/-- The registry in which the key has the language, whatever it had before. -/
def register (registry : Registry) (key : String) (language : Language) : Registry :=
  ⟨registry.entries.set key language⟩

/-- The languages that come with the generator. -/
def builtin : Registry :=
  Registry.register (Registry.register {} "c#" CSharp.language) "typescript" TypeScript.language

/-- The registered keys, in order. -/
def keys (registry : Registry) : List String := registry.entries.keys

/-- The language of a key. -/
def resolve (registry : Registry) (key : String) : Except Failure Language :=
  match registry.entries.get? key with
  | some language => .ok language
  | none => .error (.unknownConverter key registry.keys)

/-- The registry in a message. -/
def describe (registry : Registry) : String :=
  "ConverterRegistry \x7b keys: [" ++ ", ".intercalate (registry.keys.map Text.quoted) ++
    "] \x7d"

end Registry

end Stencil
