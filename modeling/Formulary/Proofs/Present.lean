import Formulary.Proofs.TextValue

/-!
# Expressions that do not ask for the present

`Expr.asksPresent` looks through a syntax tree for calls of `today`, `time` and `now`. A tree
without one has the same value at every instant (`eval_present`), and so has a text whose expression
never becomes such a tree (`valueOfText_present`).
-/

namespace Formulary.Script

/-- The global functions that give the present. -/
def clockFunctions : List String := ["today", "time", "now"]

/-- The callee of a call is one of the global functions that give the present. -/
def Expr.isClock : Expr → Bool
  | .ident name => clockFunctions.contains name
  | _ => false

mutual

/-- Somewhere in the expression the present is called for. -/
def Expr.asksPresent : Expr → Bool
  | .literal _ => false
  | .template pieces => piecesAskPresent pieces
  | .array items => itemsAskPresent items
  | .object entries => entriesAskPresent entries
  | .ident _ => false
  | .member object _ _ => object.asksPresent
  | .index object key _ => object.asksPresent || key.asksPresent
  | .call callee args => callee.isClock || callee.asksPresent || itemsAskPresent args
  | .unary _ operand => operand.asksPresent
  | .strict _ left right => left.asksPresent || right.asksPresent
  | .lazy _ left right => left.asksPresent || right.asksPresent
  | .conditional test consequent alternate =>
    test.asksPresent || consequent.asksPresent || alternate.asksPresent
  | .arrow _ body => body.asksPresent

def piecesAskPresent : List Piece → Bool
  | [] => false
  | .text _ :: pieces => piecesAskPresent pieces
  | .expr e :: pieces => e.asksPresent || piecesAskPresent pieces

def itemsAskPresent : List Expr → Bool
  | [] => false
  | e :: items => e.asksPresent || itemsAskPresent items

def entriesAskPresent : List (String × Expr) → Bool
  | [] => false
  | (_, e) :: entries => e.asksPresent || entriesAskPresent entries

end

/-- A global function that does not give the present is the same at every instant. -/
theorem callGlobal_present (now now' : Calendar.Instant) {name : String} (args : Args)
    (h : clockFunctions.contains name = false) :
    callGlobal now name args = callGlobal now' name args := by
  unfold callGlobal
  split <;> first | rfl | (exfalso; revert h; decide)

mutual

theorem Expr.eval_present (now now' : Calendar.Instant) (e : Expr) (h : e.asksPresent = false) :
    e.eval now = e.eval now' := by
  cases e with
  | literal v => rw [Expr.eval, Expr.eval]
  | template pieces =>
    rw [Expr.asksPresent] at h
    rw [Expr.eval, Expr.eval, evalPieces_present now now' pieces h]
  | array items =>
    rw [Expr.asksPresent] at h
    rw [Expr.eval, Expr.eval, evalItems_present now now' items h]
  | object entries =>
    rw [Expr.asksPresent] at h
    rw [Expr.eval, Expr.eval, evalEntries_present now now' entries h]
  | ident name => rw [Expr.eval, Expr.eval]
  | member object name optional =>
    rw [Expr.asksPresent] at h
    rw [Expr.eval, Expr.eval, Expr.eval_present now now' object h]
  | index object key optional =>
    rw [Expr.asksPresent, Bool.or_eq_false_iff] at h
    rw [Expr.eval, Expr.eval, Expr.eval_present now now' object h.1,
      Expr.eval_present now now' key h.2]
  | call callee args =>
    rw [Expr.asksPresent, Bool.or_eq_false_iff, Bool.or_eq_false_iff] at h
    obtain ⟨⟨global, inner⟩, given⟩ := h
    rw [Expr.eval, Expr.eval, evalArgs_present now now' args given]
    refine bind_congr fun values => ?_
    cases callee with
    | ident name =>
      have same := fun args => callGlobal_present now now' args global
      simp only [same]
    | member object name optional =>
      rw [Expr.asksPresent] at inner
      have receiver := Expr.eval_present now now' object inner
      cases object with
      | ident space => rfl
      | _ => simp only [receiver]
    | _ => rfl
  | unary op operand =>
    rw [Expr.asksPresent] at h
    rw [Expr.eval, Expr.eval, Expr.eval_present now now' operand h]
  | strict op left right =>
    rw [Expr.asksPresent, Bool.or_eq_false_iff] at h
    rw [Expr.eval, Expr.eval, Expr.eval_present now now' left h.1,
      Expr.eval_present now now' right h.2]
  | lazy op left right =>
    rw [Expr.asksPresent, Bool.or_eq_false_iff] at h
    rw [Expr.eval, Expr.eval, Expr.eval_present now now' left h.1,
      Expr.eval_present now now' right h.2]
  | conditional test consequent alternate =>
    rw [Expr.asksPresent, Bool.or_eq_false_iff, Bool.or_eq_false_iff] at h
    rw [Expr.eval, Expr.eval, Expr.eval_present now now' test h.1.1,
      Expr.eval_present now now' consequent h.1.2, Expr.eval_present now now' alternate h.2]
  | arrow param body => rw [Expr.eval, Expr.eval]

theorem evalPieces_present (now now' : Calendar.Instant) (pieces : List Piece)
    (h : piecesAskPresent pieces = false) : evalPieces now pieces = evalPieces now' pieces := by
  match pieces with
  | [] => rw [evalPieces, evalPieces]
  | .text s :: pieces =>
    rw [piecesAskPresent] at h
    rw [evalPieces, evalPieces, evalPieces_present now now' pieces h]
  | .expr e :: pieces =>
    rw [piecesAskPresent, Bool.or_eq_false_iff] at h
    rw [evalPieces, evalPieces, Expr.eval_present now now' e h.1,
      evalPieces_present now now' pieces h.2]

theorem evalItems_present (now now' : Calendar.Instant) (items : List Expr)
    (h : itemsAskPresent items = false) : evalItems now items = evalItems now' items := by
  match items with
  | [] => rw [evalItems, evalItems]
  | e :: items =>
    rw [itemsAskPresent, Bool.or_eq_false_iff] at h
    rw [evalItems, evalItems, Expr.eval_present now now' e h.1,
      evalItems_present now now' items h.2]

theorem evalEntries_present (now now' : Calendar.Instant) (entries : List (String × Expr))
    (h : entriesAskPresent entries = false) :
    evalEntries now entries = evalEntries now' entries := by
  match entries with
  | [] => rw [evalEntries, evalEntries]
  | (key, e) :: entries =>
    rw [entriesAskPresent, Bool.or_eq_false_iff] at h
    rw [evalEntries, evalEntries, Expr.eval_present now now' e h.1,
      evalEntries_present now now' entries h.2]

theorem evalArgs_present (now now' : Calendar.Instant) (args : List Expr)
    (h : itemsAskPresent args = false) : evalArgs now args = evalArgs now' args := by
  match args with
  | [] => rw [evalArgs, evalArgs]
  | e :: args =>
    rw [itemsAskPresent, Bool.or_eq_false_iff] at h
    have first := Expr.eval_present now now' e h.1
    have later := evalArgs_present now now' args h.2
    cases e with
    | arrow param body =>
      rw [Expr.asksPresent] at h
      rw [evalArgs, evalArgs, Expr.eval_present now now' body h.1, later]
    | _ => rw [evalArgs, evalArgs, first, later] <;> simp

end

/-- The value of a text that parses to an expression which does not ask for the present is the same
at every instant. -/
theorem evaluate_present (now now' : Calendar.Instant) {source : List Char}
    (h : ∀ e, parse source = .ok e → e.asksPresent = false) :
    evaluate now source = evaluate now' source := by
  unfold evaluate
  cases parsed : parse source with
  | error e => rfl
  | ok e =>
    have same := Expr.eval_present now now' e (h e parsed)
    show e.value now = e.value now'
    rw [Expr.value, Expr.value, same]

end Formulary.Script

namespace Formulary.Template

/-- What the block of a text comes to when its references are replaced. -/
def resolvedText (store : DocumentStore) (context : Context) (raw : String) : List Char :=
  answer (resolve store context (Parts.ofText raw.toList).expression)

/-- Whatever the fields hold, the expression in the text does not ask for the present. -/
def ClockFree (store : DocumentStore) (raw : String) : Prop :=
  ∀ (context : Context) (e : Script.Expr),
    Script.parse (resolvedText store context raw) = .ok e → e.asksPresent = false

/-- A text whose expression does not ask for the present has the same value at every instant. -/
theorem valueOfText_present {store : DocumentStore} {raw : String} (free : ClockFree store raw)
    (now now' : Calendar.Instant) (context : Context) :
    valueOfText now store context raw = valueOfText now' store context raw := by
  have same := Script.evaluate_present now now' (free context)
  unfold valueOfText evaluateText
  dsimp only
  split
  · rfl
  · refine answer_bind_congr ?_
    dsimp only [resolvedText] at same
    rw [same]

end Formulary.Template
