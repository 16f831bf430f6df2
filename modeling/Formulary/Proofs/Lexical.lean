import Formulary.Script.Eval
import Mathlib.Data.List.Forall2

/-!
# Lexical scope

The evaluator has one stack of bindings, which arrow functions put their arguments on and take them
off again. `Expr.valueIn` says what an expression means without a stack: an environment is passed
down the tree, only the body of an applied arrow function has a longer one, and an arrow function
keeps the environment that it is written in.

* `eval_lexical`: on every stack, an expression evaluates to what it means in the stack as an
  environment, be it a value or an error, and the stack is left as it was.
-/

namespace Formulary.Script

/-! ## Meaning in an environment -/

namespace Scopes

/-- The environment of the body of an arrow function that is applied to an argument. -/
def extend (env : Scopes) (param : Option String) (argument : Json) : Scopes :=
  match param with
  | none => env
  | some name => (name, argument) :: env

/-- The value of the innermost binding of a name. -/
def value (env : Scopes) (name : String) : Except EvalCause Json :=
  match env.lookup name with
  | some v => .ok v
  | none => .error (.undefinedName name)

/-- The namespace that an expression stands for: its name, unless the name is bound. -/
def namespace? (env : Scopes) : Expr → Option String
  | .ident name => if namespaces.contains name && (env.lookup name).isNone then some name else none
  | _ => none

end Scopes

/-- An argument of a call: a value, or an arrow function as what it answers to a value. -/
inductive Given where
  | value (v : Json)
  | answer (f : Json → Except EvalCause Json)

/-- The value of an argument. -/
def Given.value? : Given → Option Json
  | .value v => some v
  | .answer _ => none

/-- The answer of an arrow function as a condition. -/
def condition (f : Json → Except EvalCause Json) (v : Json) : Except EvalCause Bool :=
  return (← f v).truthy

/-- What a method of an array with an arrow function answers. -/
def arrowAnswer (items : List Json) (name : String) (f : Json → Except EvalCause Json) :
    Except EvalCause Json :=
  match name with
  | "map" => return .array (← items.mapM f)
  | "filter" => return .array (← items.filterM (condition f))
  | "find" => return (← items.findM? (condition f)).getD .null
  | "some" => return .bool (← items.anyM (condition f))
  | _ => return .bool (← items.allM (condition f))

/-- What a method of a value answers. -/
def methodAnswer (receiver : Json) (name : String) (given : List Given) : Except EvalCause Json :=
  match receiver with
  | .string s => callTextMethod s.toList name (given.map Given.value?)
  | .array items =>
    if arrowMethods.contains name then
      match given with
      | .answer f :: _ => arrowAnswer items name f
      | _ => .error (.expectsArrow name)
    else callArrayMethod items name (given.map Given.value?)
  | .null => .error (.callOnNull name)
  | v => .error (.notAFunctionOn name v.displayText)

mutual

/-- The value of an expression in an environment. -/
def Expr.valueIn (now : Calendar.Instant) (env : Scopes) : Expr → Except EvalCause Json
  | .literal v => return v
  | .template pieces => return textValue (← piecesIn now env pieces)
  | .array items => return .array (← itemsIn now env items)
  | .object entries => return .ofMembers (← entriesIn now env entries)
  | .ident name => env.value name
  | .member object name optional => do
    let v ← object.valueIn now env
    if optional && v.isNull then return .null
    property v name
  | .index object key optional => do
    let v ← object.valueIn now env
    if optional && v.isNull then return .null
    element v (← key.valueIn now env)
  | .call callee args => do
    let given ← argsIn now env args
    match callee with
    | .ident name => callGlobal now name (given.map Given.value?)
    | .member object name _ =>
      match env.namespace? object with
      | some space => callNamespaced space name (given.map Given.value?)
      | none => methodAnswer (← object.valueIn now env) name given
    | callee => throw (.notCallable callee.listing)
  | .unary op operand => return op.apply (← operand.valueIn now env)
  | .strict op left right => return op.apply (← left.valueIn now env) (← right.valueIn now env)
  | .lazy op left right => do
    let v ← left.valueIn now env
    if op.stopsAt v then return v
    right.valueIn now env
  | .conditional test consequent alternate => do
    if (← test.valueIn now env).truthy then consequent.valueIn now env
    else alternate.valueIn now env
  | .arrow _ _ => throw .strayArrow

def piecesIn (now : Calendar.Instant) (env : Scopes) :
    List Piece → Except EvalCause (List Char)
  | [] => return []
  | .text s :: pieces => return s ++ (← piecesIn now env pieces)
  | .expr e :: pieces => return (← e.valueIn now env).display ++ (← piecesIn now env pieces)

def itemsIn (now : Calendar.Instant) (env : Scopes) :
    List Expr → Except EvalCause (List Json)
  | [] => return []
  | e :: items => return (← e.valueIn now env) :: (← itemsIn now env items)

def entriesIn (now : Calendar.Instant) (env : Scopes) :
    List (String × Expr) → Except EvalCause (List (String × Json))
  | [] => return []
  | (key, e) :: entries => return (key, ← e.valueIn now env) :: (← entriesIn now env entries)

/-- The arguments of a call. An arrow function keeps the environment. -/
def argsIn (now : Calendar.Instant) (env : Scopes) : List Expr → Except EvalCause (List Given)
  | [] => return []
  | .arrow param body :: args =>
    return .answer (fun v => body.valueIn now (env.extend param v)) :: (← argsIn now env args)
  | e :: args => return .value (← e.valueIn now env) :: (← argsIn now env args)

end

/-! ## Lists in a monad -/

section

variable {m : Type → Type*} [Monad m] [LawfulMonad m] {α : Type}

theorem filterAuxM_append (p : α → m Bool) (xs acc : List α) :
    xs.filterAuxM p acc = (· ++ acc) <$> xs.filterAuxM p [] := by
  induction xs generalizing acc with
  | nil => simp [List.filterAuxM]
  | cons x xs ih =>
    rw [List.filterAuxM, List.filterAuxM, map_bind]
    refine bind_congr fun keep => ?_
    rw [ih (cond keep (x :: acc) acc), ih (cond keep [x] []), Functor.map_map]
    cases keep <;> simp

theorem filterM_cons (p : α → m Bool) (x : α) (xs : List α) :
    (x :: xs).filterM p = do
      let keep ← p x
      let rest ← xs.filterM p
      return if keep then x :: rest else rest := by
  rw [List.filterM, List.filterAuxM, bind_assoc]
  refine bind_congr fun keep => ?_
  rw [filterAuxM_append, List.filterM]
  cases keep <;> simp

theorem anyM_eq (p : α → m Bool) (xs : List α) :
    xs.anyM p = return (← xs.findM? p).isSome := by
  induction xs with
  | nil => simp [List.anyM, List.findM?]
  | cons x xs ih =>
    rw [List.anyM, List.findM?, bind_assoc]
    refine bind_congr fun holds => ?_
    cases holds with
    | true => simp
    | false => exact ih

theorem allM_eq (p : α → m Bool) (xs : List α) :
    xs.allM p = return (← xs.findM? fun x => return !(← p x)).isNone := by
  induction xs with
  | nil => simp [List.allM, List.findM?]
  | cons x xs ih =>
    rw [List.allM, List.findM?, bind_assoc, bind_assoc]
    refine bind_congr fun holds => ?_
    rw [pure_bind]
    cases holds with
    | true => exact ih
    | false => simp

end

/-! ## Computations that leave the stack as it is -/

/-- From the stack `scopes`, the computation comes to `r` and leaves the stack as it was. -/
def Yields {α : Type} (scopes : Scopes) (m : EvalM α) (r : Except EvalCause α) : Prop :=
  m.run.run scopes = (r, scopes)

section

variable {α β : Type} {scopes : Scopes}

theorem yields_pure (a : α) : Yields scopes (pure a) (pure a) := rfl

theorem yields_throw (cause : EvalCause) :
    Yields scopes (throw cause : EvalM α) (throw cause) := rfl

theorem yields_lift (r : Except EvalCause α) : Yields scopes (ExceptT.mk (pure r)) r := rfl

theorem run_bind (m : EvalM α) (k : α → EvalM β) (scopes : Scopes) :
    (m >>= k).run.run scopes =
      match m.run.run scopes with
      | (.ok a, scopes) => (k a).run.run scopes
      | (.error cause, scopes) => (.error cause, scopes) := by
  show (ExceptT.bindCont k (m.run.run scopes).1).run (m.run.run scopes).2 = _
  split <;> rename_i ran <;> rw [ran] <;> rfl

theorem Yields.bind {m : EvalM α} {r : Except EvalCause α} {k : α → EvalM β}
    {g : α → Except EvalCause β} (first : Yields scopes m r)
    (later : ∀ a, Yields scopes (k a) (g a)) : Yields scopes (m >>= k) (r >>= g) := by
  unfold Yields at first
  rw [Yields, run_bind, first]
  cases r with
  | ok a => exact later a
  | error cause => rfl

theorem Yields.ite {m m' : EvalM α} {r r' : Except EvalCause α} (c : Prop) [Decidable c]
    (positive : c → Yields scopes m r) (negative : ¬ c → Yields scopes m' r') :
    Yields scopes (if c then m else m') (if c then r else r') := by
  by_cases holds : c
  · rw [if_pos holds, if_pos holds]
    exact positive holds
  · rw [if_neg holds, if_neg holds]
    exact negative holds

/-- The bindings that are read are those of the stack. -/
theorem Yields.get_bind {k : Scopes → EvalM β} {r : Except EvalCause β}
    (later : Yields scopes (k scopes) r) : Yields scopes (get >>= k) r := later

theorem yields_lookup (name : String) :
    Yields scopes (lookup name) (scopes.value name) := by
  refine Yields.get_bind ?_
  unfold Scopes.value
  cases scopes.lookup name with
  | some v => exact yields_pure v
  | none => exact yields_throw _

/-- A body with its parameter bound leaves the stack without the binding. -/
theorem Yields.withBinding {param : Option String} {argument : Json} {body : EvalM Json}
    {r : Except EvalCause Json} (ran : Yields (scopes.extend param argument) body r) :
    Yields scopes (withBinding param argument body) r := by
  cases param with
  | none => exact ran
  | some name =>
    have ran : body.run.run ((name, argument) :: scopes) = (r, (name, argument) :: scopes) := ran
    show ((body.run.run ((name, argument) :: scopes)).1,
      (body.run.run ((name, argument) :: scopes)).2.tail) = _
    rw [ran]
    rfl

/-! ## Methods that take an arrow function -/

variable {run : Json → EvalM Json} {f : Json → Except EvalCause Json}
  {test : Json → EvalM Bool} {p : Json → Except EvalCause Bool}

theorem yields_mapM (each : ∀ v, Yields scopes (run v) (f v)) (items : List Json) :
    Yields scopes (items.mapM run) (items.mapM f) := by
  induction items with
  | nil => exact yields_pure []
  | cons v items ih =>
    rw [List.mapM_cons, List.mapM_cons]
    exact (each v).bind fun w => ih.bind fun ws => yields_pure (w :: ws)

theorem yields_filterItems (each : ∀ v, Yields scopes (test v) (p v)) (items : List Json) :
    Yields scopes (filterItems test items) (items.filterM p) := by
  induction items with
  | nil => exact yields_pure []
  | cons v items ih =>
    rw [filterItems, filterM_cons]
    exact (each v).bind fun keep => ih.bind fun rest => yields_pure _

theorem yields_firstItem (each : ∀ v, Yields scopes (test v) (p v)) (items : List Json) :
    Yields scopes (firstItem test items) (items.findM? p) := by
  induction items with
  | nil => exact yields_pure none
  | cons v items ih =>
    rw [firstItem, List.findM?]
    refine (each v).bind fun holds => ?_
    cases holds with
    | true => exact yields_pure _
    | false => exact ih

theorem yields_callArrowMethod (each : ∀ v, Yields scopes (run v) (f v)) (items : List Json)
    {name : String} (listed : arrowMethods.contains name = true) :
    Yields scopes (callArrowMethod items name run) (arrowAnswer items name f) := by
  have holds (v : Json) : Yields scopes (return (← run v).truthy) (condition f v) :=
    (each v).bind fun w => yields_pure w.truthy
  have fails (v : Json) : Yields scopes (return !(← (return (← run v).truthy)))
      (return !(← condition f v)) := (holds v).bind fun b => yields_pure (!b)
  have named : name = "map" ∨ name = "filter" ∨ name = "find" ∨ name = "some" ∨ name = "every" := by
    simpa [arrowMethods] using listed
  rcases named with rfl | rfl | rfl | rfl | rfl
  · exact (yields_mapM each items).bind fun ws => yields_pure _
  · exact (yields_filterItems holds items).bind fun kept => yields_pure _
  · exact (yields_firstItem holds items).bind fun found => yields_pure _
  · show Yields scopes _ (do return Json.bool (← items.anyM (condition f)))
    rw [anyM_eq, bind_assoc]
    exact (yields_firstItem holds items).bind fun found => yields_pure _
  · show Yields scopes _ (do return Json.bool (← items.allM (condition f)))
    rw [allM_eq, bind_assoc]
    exact (yields_firstItem fails items).bind fun found => yields_pure _

/-- On the stack `scopes`, an argument is what it is in the environment. -/
inductive Arg.Means (scopes : Scopes) : Arg → Given → Prop
  | value (v : Json) : Arg.Means scopes (.value v) (.value v)
  | arrow {run : Json → EvalM Json} {f : Json → Except EvalCause Json}
      (each : ∀ v, Yields scopes (run v) (f v)) : Arg.Means scopes (.arrow run) (.answer f)

theorem map_value?_of_means {args : List Arg} {given : List Given}
    (means : List.Forall₂ (Arg.Means scopes) args given) :
    args.map Arg.value? = given.map Given.value? := by
  induction means with
  | nil => rfl
  | cons first _ ih =>
    rw [List.map_cons, List.map_cons, ih]
    cases first <;> rfl

theorem yields_callMethod {args : List Arg} {given : List Given}
    (means : List.Forall₂ (Arg.Means scopes) args given) (receiver : Json) (name : String) :
    Yields scopes (callMethod receiver name args) (methodAnswer receiver name given) := by
  cases receiver with
  | string s =>
    show Yields scopes (ExceptT.mk (pure (callTextMethod s.toList name (args.map Arg.value?)))) _
    rw [map_value?_of_means means]
    exact yields_lift _
  | array items =>
    refine Yields.ite _ (fun listed => ?_) fun _ => ?_
    · cases means with
      | nil => exact yields_throw _
      | cons first _ =>
        cases first with
        | value v => exact yields_throw _
        | arrow each => exact yields_callArrowMethod each items listed
    · rw [map_value?_of_means means]
      exact yields_lift _
  | _ => exact yields_throw _

end

/-! ## Expressions -/

/-- On the stack `scopes`, arguments are evaluated to what they are in the environment. -/
inductive YieldsArgs (scopes : Scopes) (m : EvalM (List Arg)) :
    Except EvalCause (List Given) → Prop
  | ok {args : List Arg} {given : List Given} (ran : Yields scopes m (.ok args))
      (means : List.Forall₂ (Arg.Means scopes) args given) : YieldsArgs scopes m (.ok given)
  | error {cause : EvalCause} (ran : Yields scopes m (.error cause)) :
      YieldsArgs scopes m (.error cause)

section

variable {scopes : Scopes} {m : EvalM (List Arg)} {r : Except EvalCause (List Given)}

theorem YieldsArgs.bind {β : Type} {k : List Arg → EvalM β} {g : List Given → Except EvalCause β}
    (first : YieldsArgs scopes m r)
    (later : ∀ {args given}, List.Forall₂ (Arg.Means scopes) args given →
      Yields scopes (k args) (g given)) : Yields scopes (m >>= k) (r >>= g) := by
  cases first with
  | ok ran means =>
    rw [Yields, run_bind, ran]
    exact later means
  | error ran =>
    rw [Yields, run_bind, ran]
    rfl

theorem YieldsArgs.cons {arg : Arg} {given : Given} (first : arg.Means scopes given)
    (rest : YieldsArgs scopes m r) :
    YieldsArgs scopes (return arg :: (← m)) (return given :: (← r)) := by
  cases rest with
  | @ok args given ran means =>
    have more : Yields scopes (return arg :: (← m)) (.ok (arg :: args)) :=
      Yields.bind ran fun args => yields_pure (arg :: args)
    exact .ok more (.cons first means)
  | @error cause ran =>
    have more : Yields scopes (return arg :: (← m)) (.error cause) :=
      Yields.bind ran fun args => yields_pure (arg :: args)
    exact .error more

/-- What is evaluated before the arguments comes first, with its error if it has one. -/
theorem YieldsArgs.after {n : EvalM Json} {s : Except EvalCause Json} {k : Json → EvalM (List Arg)}
    {g : Json → Except EvalCause (List Given)} (first : Yields scopes n s)
    (rest : ∀ v, YieldsArgs scopes (k v) (g v)) : YieldsArgs scopes (n >>= k) (s >>= g) := by
  unfold Yields at first
  cases s with
  | error cause =>
    refine .error ?_
    rw [Yields, run_bind, first]
  | ok v =>
    have ran : (n >>= k).run.run scopes = (k v).run.run scopes := by rw [run_bind, first]
    show YieldsArgs scopes (n >>= k) (g v)
    generalize g v = r, rest v = later
    cases later with
    | ok later means => exact .ok (ran.trans later) means
    | error later => exact .error (ran.trans later)

end

-- The recursion is on the syntax with any stack: the body of an arrow function is evaluated on a
-- longer one.
mutual

theorem yields_eval (now : Calendar.Instant) (scopes : Scopes) (e : Expr) :
    Yields scopes (e.eval now) (e.valueIn now scopes) := by
  cases e with
  | literal v => exact yields_pure v
  | template pieces =>
    rw [Expr.eval, Expr.valueIn]
    exact (yields_evalPieces now scopes pieces).bind fun s => yields_pure _
  | array items =>
    rw [Expr.eval, Expr.valueIn]
    exact (yields_evalItems now scopes items).bind fun vs => yields_pure _
  | object entries =>
    rw [Expr.eval, Expr.valueIn]
    exact (yields_evalEntries now scopes entries).bind fun members => yields_pure _
  | ident name =>
    rw [Expr.eval, Expr.valueIn]
    exact yields_lookup name
  | member object name optional =>
    rw [Expr.eval, Expr.valueIn]
    refine (yields_eval now scopes object).bind fun v => Yields.ite _ (fun _ => ?_) fun _ => ?_
    · exact yields_pure _
    · exact yields_lift _
  | index object key optional =>
    rw [Expr.eval, Expr.valueIn]
    refine (yields_eval now scopes object).bind fun v => Yields.ite _ (fun _ => ?_) fun _ => ?_
    · exact yields_pure _
    · exact (yields_eval now scopes key).bind fun k => yields_lift _
  | call callee args =>
    rw [Expr.eval, Expr.valueIn]
    -- arguments come first; what kind of call it is depends on the syntax of the callee
    refine (yields_evalArgs now scopes args).bind fun means => ?_
    cases callee with
    | ident name =>
      dsimp only
      rw [map_value?_of_means means]
      exact yields_lift _
    | member object name optional =>
      have receiver := yields_eval now scopes object
      -- only a bare name can stand for a namespace
      cases object with
      | ident space =>
        refine Yields.get_bind ?_
        dsimp only [Scopes.namespace?]
        by_cases free : (namespaces.contains space && (List.lookup space scopes).isNone) = true
        · rw [if_pos free, if_pos free, map_value?_of_means means]
          exact yields_lift _
        · rw [if_neg free, if_neg free]
          exact receiver.bind fun v => yields_callMethod means v name
      | _ => exact receiver.bind fun v => yields_callMethod means v name
    | _ => exact yields_throw _
  | unary op operand =>
    rw [Expr.eval, Expr.valueIn]
    exact (yields_eval now scopes operand).bind fun v => yields_pure _
  | strict op left right =>
    rw [Expr.eval, Expr.valueIn]
    exact (yields_eval now scopes left).bind fun v =>
      (yields_eval now scopes right).bind fun w => yields_pure _
  | lazy op left right =>
    rw [Expr.eval, Expr.valueIn]
    refine (yields_eval now scopes left).bind fun v => Yields.ite _ (fun _ => ?_) fun _ => ?_
    · exact yields_pure v
    · exact yields_eval now scopes right
  | conditional test consequent alternate =>
    rw [Expr.eval, Expr.valueIn]
    refine (yields_eval now scopes test).bind fun v => Yields.ite _ (fun _ => ?_) fun _ => ?_
    · exact yields_eval now scopes consequent
    · exact yields_eval now scopes alternate
  | arrow param body => exact yields_throw _

theorem yields_evalPieces (now : Calendar.Instant) (scopes : Scopes) (pieces : List Piece) :
    Yields scopes (evalPieces now pieces) (piecesIn now scopes pieces) := by
  match pieces with
  | [] => exact yields_pure []
  | .text s :: pieces =>
    rw [evalPieces, piecesIn]
    exact (yields_evalPieces now scopes pieces).bind fun t => yields_pure _
  | .expr e :: pieces =>
    rw [evalPieces, piecesIn]
    exact (yields_eval now scopes e).bind fun v =>
      (yields_evalPieces now scopes pieces).bind fun t => yields_pure _

theorem yields_evalItems (now : Calendar.Instant) (scopes : Scopes) (items : List Expr) :
    Yields scopes (evalItems now items) (itemsIn now scopes items) := by
  match items with
  | [] => exact yields_pure []
  | e :: items =>
    rw [evalItems, itemsIn]
    exact (yields_eval now scopes e).bind fun v =>
      (yields_evalItems now scopes items).bind fun vs => yields_pure _

theorem yields_evalEntries (now : Calendar.Instant) (scopes : Scopes)
    (entries : List (String × Expr)) :
    Yields scopes (evalEntries now entries) (entriesIn now scopes entries) := by
  match entries with
  | [] => exact yields_pure []
  | (key, e) :: entries =>
    rw [evalEntries, entriesIn]
    exact (yields_eval now scopes e).bind fun v =>
      (yields_evalEntries now scopes entries).bind fun members => yields_pure _

theorem yields_evalArgs (now : Calendar.Instant) (scopes : Scopes) (args : List Expr) :
    YieldsArgs scopes (evalArgs now args) (argsIn now scopes args) := by
  match args with
  | [] => exact .ok (yields_pure []) .nil
  | e :: args =>
    have first := yields_eval now scopes e
    have rest := yields_evalArgs now scopes args
    cases e with
    | arrow param body =>
      rw [evalArgs, argsIn]
      refine rest.cons (.arrow fun v => ?_)
      -- the body is evaluated when it is applied, on the stack of that moment, which is `scopes`
      exact (yields_eval now (scopes.extend param v) body).withBinding
    | _ =>
      rw [evalArgs, argsIn]
      · exact YieldsArgs.after first fun v => rest.cons (.value v)
      all_goals simp

end

/-- **Scope is lexical.** On every stack of bindings, an expression comes to its value in the
environment of these bindings or to the error that stands in its place, and the stack is then as it
was before. -/
theorem eval_lexical (now : Calendar.Instant) (scopes : Scopes) (e : Expr) :
    (e.eval now).run.run scopes = (e.valueIn now scopes, scopes) :=
  yields_eval now scopes e

/-- The parameter of an inner function hides that of the outer one for its own body only:
`[1].map(x => [2].map(x => x).concat(x))`. -/
example : (Expr.call (.member (.array [.literal (.int 1)]) "map" false) [.arrow (some "x")
      (.call (.member (.call (.member (.array [.literal (.int 2)]) "map" false)
        [.arrow (some "x") (.ident "x")]) "concat" false) [.ident "x"])]).valueIn 0 [] =
    .ok (.array [.array [.int 2, .int 1]]) := by
  rfl

end Formulary.Script
