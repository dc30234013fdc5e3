import BlockGraph.Analysis.Resolve
/-!
# Rewriting expressions held in an arena

A body's expressions are slots of one arena, rewritten operands first and written back in place;
a memo of the body maps each id visited, and each id returned, to its result.
-/

namespace BlockGraph

abbrev ExprId := UInt32

/-- One slot of the expression arena: an expression whose operands are ids. -/
inductive Node where
  | int (v : Int) (span : Span)
  | float (v : Float) (span : Span)
  | str (s : String) (span : Span)
  | name (n : Name)
  | arg (n : Name)
  | accessor (symbol : String) (symbolSpan : Span) (property : String) (propertySpan : Span)
  | repr (p : Primitive) (args : List ExprId) (span : Span)
  | unop (op : UnOp) (operand : ExprId) (span : Span)
  | binop (op : BinOp) (lhs rhs : ExprId) (span : Span)
  deriving Inhabited

namespace Node

def operands : Node → List ExprId
  | .repr _ args _ => args
  | .unop _ operand _ => [operand]
  | .binop _ lhs rhs _ => [lhs, rhs]
  | _ => []

def isZero : Node → Bool
  | .int v _ => v == 0
  | .float v _ => v == 0
  | _ => false

def literal? : Node → Option Expr
  | .int v span => some (.int v span)
  | .float v span => some (.float v span)
  | _ => none

end Node

structure Arena where
  slots : List Node := []

namespace Arena

def get? (a : Arena) (id : ExprId) : Option Node :=
  if id = 0 then none else a.slots[id.toNat - 1]?

def set (a : Arena) (id : ExprId) (n : Node) : Arena :=
  if id = 0 then a else { slots := a.slots.set (id.toNat - 1) n }

def alloc (a : Arena) (n : Node) : ExprId × Arena :=
  (UInt32.ofNat (a.slots.length + 1), { slots := a.slots ++ [n] })

end Arena

/-- What the walk of a body carries: the arena, the memo and what the walk gathers. -/
structure Visit where
  arena : Arena
  memo : List (ExprId × ExprId) := []
  walk : Walk := {}

abbrev ArenaM := ReaderT Scope (StateM Visit)

namespace ArenaM

def record (x : WalkM Unit) : ArenaM Unit := fun sc v => ((), { v with walk := (x sc v.walk).2 })

def node? (id : ExprId) : ArenaM (Option Node) := do return (← get).arena.get? id

def setNode (id : ExprId) (n : Node) : ArenaM Unit :=
  modify fun v => { v with arena := v.arena.set id n }

def new (n : Node) : ArenaM ExprId :=
  modifyGet fun v => ((v.arena.alloc n).1, { v with arena := (v.arena.alloc n).2 })

def memoized? (id : ExprId) : ArenaM (Option ExprId) := do return (← get).memo.lookup id

def remember (id out : ExprId) : ArenaM Unit :=
  modify fun v => { v with memo := (out, out) :: (id, out) :: v.memo }

def subtractFromZero (operand : ExprId) (span : Span) : ArenaM ExprId := do
  let zero ← new (.int 0 span)
  new (.binop .sub zero operand span)

/-- The negation of the rewritten operand `operand`, whose slot holds `inner`: a literal is
negated into a new slot, `-(0 - x)` gives `x`, and anything else becomes `0 - operand`. -/
def negateId (operand : ExprId) (inner : Node) (span : Span) : ArenaM ExprId :=
  match inner with
  | .int v _ => new (.int (wrapWord (-v)) span)
  | .float v _ => new (.float (-v) span)
  | .binop .sub l r _ => do
    if ((← node? l).map Node.isZero).getD false then pure r else subtractFromZero operand span
  | _ => subtractFromZero operand span

/-- The rest of the rewriting of `op operand` in slot `id`, once the operand is rewritten: the
operand is written back, a negation is rewritten as above, and `not (not x)` gives `x`. -/
def rewriteUnOp (id : ExprId) (op : UnOp) (operand : ExprId) (span : Span) : ArenaM ExprId := do
  setNode id (.unop op operand span)
  match ← node? operand with
  | none => pure id
  | some inner =>
    match op with
    | .neg => negateId operand inner span
    | .not =>
      match inner with
      | .unop .not operand' _ => pure operand'
      | _ => pure id
    | _ => pure id

def foldIds (op : BinOp) (lhs rhs : ExprId) (span : Span) : ArenaM (Option ExprId) := do
  match ((← node? lhs).bind Node.literal?), ((← node? rhs).bind Node.literal?) with
  | some l, some r =>
    match foldArith op l r span with
    | some (.int v s) => some <$> new (.int v s)
    | some (.float v s) => some <$> new (.float v s)
    | _ => pure none
  | _, _ => pure none

def desugar (op : UnOp) (inner : BinOp) (lhs rhs : ExprId) (span : Span) : ArenaM ExprId := do
  let id ← new (.binop inner lhs rhs span)
  new (.unop op id span)

/-- The rest of the rewriting of `lhs op rhs` in slot `id`, once both operands are rewritten:
they are written back, then a list named by `letter of` is recorded, `+ - *` are folded, and
the operators with no block of their own are desugared into new slots. -/
def rewriteBinOp (id : ExprId) (op : BinOp) (lhs rhs : ExprId) (span : Span) : ArenaM ExprId := do
  setNode id (.binop op lhs rhs span)
  match op with
  | .letterOf =>
    let list ← node? lhs
    record do
      if let some (.name n) := list then
        if n.field == "" && (← read).isList n.base then WalkM.addList n.base
    pure id
  | .add | .sub | .mul =>
    match ← foldIds op lhs rhs span with
    | some folded => pure folded
    | none => pure id
  | .le => desugar .not .lt rhs lhs span
  | .ge => desugar .not .gt rhs lhs span
  | .ne => desugar .not .eq lhs rhs span
  | .floorDiv => desugar .floor .div lhs rhs span
  | _ => pure id

/-- The id that replaces `id` in its holder, its operands rewritten first; the memo answers
for an id this body visited or returned before. The fuel bounds the depth of the walk: an arena
whose operands precede their holders needs no more than the id itself. -/
def visitId : Nat → ExprId → ArenaM ExprId
  | 0, id => pure id
  | fuel + 1, id => do
    if id = 0 then return id
    if let some done ← memoized? id then return done
    let out ← match ← node? id with
      | none => pure id
      | some (.accessor symbol _ property _) => do
        record (recordAccessor symbol property)
        pure id
      | some (.name n) => do
        record (recordName n)
        pure id
      | some (.arg n) => do
        record (WalkM.markRead n.base)
        pure id
      | some (.repr p args span) => do
        let args ← args.mapM (visitId fuel)
        setNode id (.repr p args span)
        pure id
      | some (.unop op operand span) => do
        let operand ← visitId fuel operand
        rewriteUnOp id op operand span
      | some (.binop op lhs rhs span) => do
        let lhs ← visitId fuel lhs
        let rhs ← visitId fuel rhs
        rewriteBinOp id op lhs rhs span
      | some _ => pure id
    remember id out
    pure out

def visitExpr (id : ExprId) : ArenaM ExprId := do
  visitId (← get).arena.slots.length id

def visitExprs (ids : List ExprId) : ArenaM (List ExprId) := ids.mapM visitExpr

end ArenaM

end BlockGraph
