import Caseless.Generated.Printer
import Caseless.Options

/-!
# Expanding a declaration

A declaration is expanded when it is an enum whose raw values are strings.  The checks come in a
fixed order, and the first one that fails is reported: the options, the kind of the item, the raw
value type, and then the cases in the order in which they are declared.
-/

namespace Caseless

/-- Why an expansion fails. -/
inductive Failure where
  /-- An option is malformed. -/
  | options (error : SyntaxError)
  /-- The declaration is not supported. -/
  | diagnostic (diagnostic : Diagnostic)

namespace Failure

/-- The code that reports a failure. -/
def lexemes : Failure → List Lexeme
  | options error => Template.compileError error.message
  | diagnostic d => d.problem.lexemes

end Failure

namespace Item

/-- The type that implementations for an item are for. -/
def target (item : Item) : Target := ⟨item.name.ident, item.generics⟩

/-- The variants of an item that is an enum. -/
def requireEnum (item : Item) : Except Diagnostic (List Variant) :=
  match item.body with
  | .enum variants => .ok variants
  | _ => .error ⟨.notAnEnum item.name.ident.text item.kind, item.name.span⟩

/-- The cases of an item that is an enum with strings as raw values. -/
def requireCases (item : Item) : Except Diagnostic (List Case) := do
  let variants ← item.requireEnum
  item.requireStringRawValue
  Variant.toCases variants

end Item

/-- The declarations that are generated for some cases. -/
def generate (target : Target) (cases : List Case) (context : Context) : List Generated :=
  match context.strategy with
  | .branchTable =>
      [.initializer ⟨target, context.root, cases, .branchTable (Branch.table cases)⟩]
  | .allCases =>
      [.initializer ⟨target, context.root, cases, .allCases⟩,
        .extension ⟨target, context.root, cases.map (·.ident)⟩]

/-- Expands a declaration with the given options. -/
def expandWith (item : Item) (context : Context) : Except Diagnostic (List Generated) := do
  let cases ← item.requireCases
  return generate item.target cases context

/-- Expands a declaration with the options that its attributes set. -/
def expand (item : Item) : Except Failure (List Generated) :=
  match Context.ofAttributes item.attributes with
  | .error error => .error (.options error)
  | .ok context =>
      match expandWith item context with
      | .error d => .error (.diagnostic d)
      | .ok generated => .ok generated

/-- The code of an expansion: that of the generated declarations, or that of one compile error. -/
def Expansion.lexemes : Except Failure (List Generated) → List Lexeme
  | .ok generated => generated.flatMap Generated.lexemes
  | .error failure => failure.lexemes

end Caseless
