import StreamScript.Expr.Arith
import StreamScript.Expr.Tree

/-!
# The value of an expression

Operands are evaluated from left to right, and the second operand of `&&` or
`||` only when the first leaves the answer open.  The groups of the latest
pattern that captured anything are kept beside the value.

A host is whatever turns expression text into a value; scripts run with the
bundled language unless another host is supplied.
-/

namespace StreamScript

/-- The value of an operator whose operands have both been evaluated. -/
def BinOp.apply (op : BinOp) (l r : Value) : Except ExprError Value :=
  match op with
  | .add => l.add r
  | .sub => l.sub r
  | .mul => l.mul r
  | .div => l.div r
  | .rem => l.rem r
  | .eq => .ok (.bool (l.looseEq r))
  | .ne => .ok (.bool (!l.looseEq r))
  | .lt => (l.order r).map fun o => .bool (o == .lt)
  | .le => (l.order r).map fun o => .bool (o != .gt)
  | .gt => (l.order r).map fun o => .bool (o == .gt)
  | .ge => (l.order r).map fun o => .bool (o != .lt)
  | .and => .ok (.bool (l.truth && r.truth))
  | .or => .ok (.bool (l.truth || r.truth))

namespace Expr

mutual

/-- The value of an expression; `groups` is what has been captured before. -/
def eval (groups : Captures) : Expr → Except ExprError Evaluated
  | .literal v => .ok ⟨v, groups⟩
  | .unary op arg => do
      let a ← eval groups arg
      match op with
      | .neg =>
          let v ← a.value.neg
          return ⟨v, a.groups⟩
      | .not => return ⟨.bool (!a.value.truth), a.groups⟩
  | .binary op lhs rhs => do
      let l ← eval groups lhs
      match op with
      | .and =>
          if l.value.truth then
            let r ← eval l.groups rhs
            return ⟨.bool r.value.truth, r.groups⟩
          else return ⟨.bool false, l.groups⟩
      | .or =>
          if l.value.truth then return ⟨.bool true, l.groups⟩
          else
            let r ← eval l.groups rhs
            return ⟨.bool r.value.truth, r.groups⟩
      | op =>
          let r ← eval l.groups rhs
          let v ← op.apply l.value r.value
          return ⟨v, r.groups⟩
  | .call name args => do
      let (texts, groups) ← evalList groups args
      match Builtin.callNamed? name texts with
      | none => throw (.unknownFunction name)
      | some outcome =>
          let out ← outcome
          return ⟨out.value, if out.groups.isEmpty then groups else out.groups⟩

/-- The texts of the values of several expressions. -/
def evalList (groups : Captures) : List Expr → Except ExprError (List String × Captures)
  | [] => .ok ([], groups)
  | e :: rest => do
      let v ← eval groups e
      let (texts, groups) ← evalList v.groups rest
      return (v.value.render :: texts, groups)

end

end Expr

/-- Whatever evaluates expression text. -/
abbrev Host : Type := String → Except ExprError Evaluated

/-- The bundled expression language. -/
def Host.bundled : Host := fun text => do
  let e ← Expr.parse text
  e.eval []

end StreamScript
