import CypherExpr.Proofs.Evaluation.Operators
import CypherExpr.Proofs.Evaluation.Parts

/-!
# Map projections

The items of a projection write into one map from left to right.  A key keeps the place where it was
first introduced, and the last item that introduces it gives its value, so an item may override what
`.*` copied before and `.*` may override what stands before it.  What `.key` looks up is what the
property access `subject.key` evaluates to.
-/

namespace CypherExpr

namespace Properties

variable {α : Type}

/-- A key that is set after others takes its place behind them if it is new. -/
theorem keys_set_of_eraseDups {properties : Properties α} {names : List String}
    (hkeys : properties.keys = names.eraseDups) (key : String) (value : α) :
    (set properties key value).keys = (names ++ [key]).eraseDups := by
  rw [keys_set, List.eraseDups_append, hkeys]
  by_cases hkey : key ∈ names <;> simp [hkey, List.removeAll, List.eraseDups_cons]

/-- Entries that are set one after the other leave every key where it was first set. -/
theorem keys_setAll {properties : Properties α} {names : List String}
    (hkeys : properties.keys = names.eraseDups) (entries : List (String × α)) :
    (setAll properties entries).keys = (names ++ entries.map Prod.fst).eraseDups := by
  induction entries generalizing properties names with
  | nil => rwa [List.map_nil, List.append_nil]
  | cons entry rest ih =>
      have hrest := ih (keys_set_of_eraseDups hkeys entry.1 entry.2)
      rw [List.append_assoc] at hrest
      exact hrest

/-- Of entries that are set one after the other the last one for a key gives its value. -/
theorem get?_setAll (properties : Properties α) (entries : List (String × α)) (key : String) :
    (setAll properties entries).get? key =
      (get? entries.reverse key).or (properties.get? key) := by
  induction entries generalizing properties with
  | nil => rfl
  | cons entry rest ih =>
      have hfirst : (set properties entry.1 entry.2).get? key =
          (get? [entry] key).or (properties.get? key) := by
        rw [get?_set, get?_cons]
        split <;> rfl
      rw [List.reverse_cons, get?_append, Option.or_assoc, ← hfirst]
      exact ih _

end Properties

/-- The keys that an item introduces into a projection of these properties, in order. -/
def ProjectionItem.introduces {ε : Type} (properties : Properties Value) :
    ProjectionItem ε → List String
  | .property key => [key]
  | .entry key _ => [key]
  | .variable name => [name]
  | .allProperties => properties.keys

/-- The value of `subject.key` for a map, a node or a relationship. -/
theorem Eval.property_eq {source : Value} {properties : Properties Value}
    (hsource : source.properties? = some properties) (key : String) :
    Eval.property key source = .ok (.ofOption (properties.get? key)) := by
  cases source with
  | map | node | relationship =>
      cases hsource
      rfl
  | _ => cases hsource

namespace Engine

open Outcome

/-- The expression or the variable of an item has a value. -/
def ItemEvaluates (engine : Engine) (context : Context) : ProjectionItem Expr → Prop
  | .entry _ expr => ∃ value, engine.eval engine.options.maxDepth expr context = .ok value
  | .variable name => ∃ value, context.lookup name = some value
  | .property _ => True
  | .allProperties => True

/-- What an item of a projection gives under a key.  For `.key` this is the value of the property
access, which it has under every budget that admits its two levels. -/
inductive ItemGives (engine : Engine) (context : Context) (subject : String)
    (properties : Properties Value) : ProjectionItem Expr → String → Value → Prop
  | property {key : String} {value : Value}
      (hvalue : ∀ budget,
        engine.eval (budget + 2) (.property (.variable subject) key) context = .ok value) :
      ItemGives engine context subject properties (.property key) key value
  | entry {key : String} {expr : Expr} {value : Value}
      (hvalue : engine.eval engine.options.maxDepth expr context = .ok value) :
      ItemGives engine context subject properties (.entry key expr) key value
  | variable {name : String} {value : Value} (hvalue : context.lookup name = some value) :
      ItemGives engine context subject properties (.variable name) name value
  | allProperties {key : String} {value : Value} (hentry : (key, value) ∈ properties) :
      ItemGives engine context subject properties .allProperties key value

section Projection

variable (engine : Engine) {context : Context} {subject : String} {source : Value}
  {properties : Properties Value}

theorem eval_property_of_lookup (hsubject : context.lookup subject = some source)
    (hsource : source.properties? = some properties) (key : String) (budget : Nat) :
    engine.eval (budget + 2) (.property (.variable subject) key) context =
      .ok (.ofOption (properties.get? key)) := by
  have hvalue : engine.eval (budget + 1) (.variable subject) context = .ok source := by
    simp only [eval, Eval.level, Eval.valueOf, hsubject]
    rfl
  refine leaving_eq_ok_iff.mpr (bind_eq_ok_iff.mpr ⟨source, hvalue, ?_⟩)
  exact ofResult_eq_ok_iff.mpr (Eval.property_eq hsource key)

/-- An item that evaluates sets the entries that it gives under the keys that it introduces. -/
theorem exists_entries_of_item (hsubject : context.lookup subject = some source)
    (hsource : source.properties? = some properties) {item : ProjectionItem Expr}
    (hitem : engine.ItemEvaluates context item) :
    ∃ entries : List (String × Value),
      (∀ soFar rest,
        Eval.projectItems (engine.eval engine.options.maxDepth) context properties soFar
          (item :: rest) =
        Eval.projectItems (engine.eval engine.options.maxDepth) context properties
          (soFar.setAll entries) rest) ∧
      entries.map Prod.fst = item.introduces properties ∧
      ∀ key value, (key, value) ∈ entries →
        engine.ItemGives context subject properties item key value := by
  cases item with
  | property key =>
      refine ⟨[(key, .ofOption (properties.get? key))], fun _ _ => rfl, rfl, ?_⟩
      intro _ _ hentry
      cases List.mem_singleton.mp hentry
      exact .property fun budget => engine.eval_property_of_lookup hsubject hsource key budget
  | entry key expr =>
      obtain ⟨value, hvalue⟩ := hitem
      refine ⟨[(key, value)], fun soFar rest => ?_, rfl, ?_⟩
      · simp only [Eval.projectItems, hvalue]
        rfl
      · intro _ _ hentry
        cases List.mem_singleton.mp hentry
        exact .entry hvalue
  | «variable» name =>
      obtain ⟨value, hvalue⟩ := hitem
      refine ⟨[(name, value)], fun soFar rest => ?_, rfl, ?_⟩
      · simp only [Eval.projectItems, Eval.valueOf, hvalue]
        rfl
      · intro _ _ hentry
        cases List.mem_singleton.mp hentry
        exact .variable hvalue
  | allProperties => exact ⟨properties, fun _ _ => rfl, rfl, fun _ _ => .allProperties⟩

/-- The items that are left after some have introduced the names so far.  What stands under a key in
the end is given by the last of them that introduces the key, or was there before and is left
alone. -/
theorem exists_projectItems (hsubject : context.lookup subject = some source)
    (hsource : source.properties? = some properties) {items : List (ProjectionItem Expr)}
    (hitems : ∀ item ∈ items, engine.ItemEvaluates context item) {soFar : Properties Value}
    {names : List String} (hkeys : soFar.keys = names.eraseDups) :
    ∃ result,
      Eval.projectItems (engine.eval engine.options.maxDepth) context properties soFar items =
        .ok result ∧
      result.keys =
        (names ++ items.flatMap (ProjectionItem.introduces properties)).eraseDups ∧
      ∀ key value, result.get? key = some value →
        (∃ before item after, items = before ++ item :: after ∧
          engine.ItemGives context subject properties item key value ∧
          ∀ later ∈ after, key ∉ later.introduces properties) ∨
        soFar.get? key = some value ∧ ∀ item ∈ items, key ∉ item.introduces properties := by
  induction items generalizing soFar names with
  | nil =>
      refine ⟨soFar, rfl, ?_, fun key value hvalue => .inr ⟨hvalue, List.forall_mem_nil _⟩⟩
      rw [List.flatMap_nil, List.append_nil, hkeys]
  | cons item rest ih =>
      obtain ⟨hitem, hrest⟩ := List.forall_mem_cons.mp hitems
      obtain ⟨entries, hstep, hintroduced, hgives⟩ :=
        engine.exists_entries_of_item hsubject hsource hitem
      obtain ⟨result, hresult, hresultKeys, hlast⟩ :=
        ih hrest (Properties.keys_setAll hkeys entries)
      refine ⟨result, (hstep soFar rest).trans hresult, ?_, fun key value hvalue => ?_⟩
      · rw [hresultKeys, hintroduced, List.flatMap_cons, List.append_assoc]
      · rcases hlast key value hvalue with ⟨before, last, after, rfl, hgiven⟩ | ⟨hearlier, hlater⟩
        · exact .inl ⟨item :: before, last, after, rfl, hgiven⟩
        · -- nothing later introduces the key, so this item or none of them gives the value
          rw [Properties.get?_setAll] at hearlier
          cases hentry : Properties.get? entries.reverse key with
          | some own =>
              rw [hentry] at hearlier
              cases hearlier
              have hmem := List.mem_reverse.mp (Properties.mem_of_get? hentry)
              exact .inl ⟨[], item, rest, rfl, hgives key value hmem, hlater⟩
          | none =>
              rw [hentry] at hearlier
              have hnew : key ∉ item.introduces properties := by
                simpa [Properties.keys, hintroduced] using
                  (Properties.get?_eq_none_iff _ key).mp hentry
              exact .inr ⟨hearlier, List.forall_mem_cons.mpr ⟨hnew, hlater⟩⟩

end Projection

/-- A projection of a map, a node or a relationship whose items evaluate is a map.  Its keys are
those that the items introduce from left to right, each at the place where it is introduced first,
and the value under a key is the one that the last item to introduce it gives. -/
theorem evaluate_mapProjection (engine : Engine) (context : Context) (subject : String)
    (source : Value) (properties : Properties Value)
    (hsubject : context.lookup subject = some source)
    (hsource : source.properties? = some properties) (items : List (ProjectionItem Expr))
    (hitems : ∀ item ∈ items, engine.ItemEvaluates context item) :
    ∃ result : Properties Value,
      engine.evaluate (.mapProjection subject items) context = .ok (.map result) ∧
      result.keys = (items.flatMap (ProjectionItem.introduces properties)).eraseDups ∧
      ∀ key value, result.get? key = some value →
        ∃ before item after, items = before ++ item :: after ∧
          engine.ItemGives context subject properties item key value ∧
          ∀ later ∈ after, key ∉ later.introduces properties := by
  have hempty : Properties.keys ([] : Properties Value) = [].eraseDups := rfl
  obtain ⟨result, hresult, hkeys, hlast⟩ :=
    engine.exists_projectItems hsubject hsource hitems hempty
  refine ⟨result, ?_, hkeys, fun key value hvalue => ?_⟩
  · have hvalue : ofResult (Eval.valueOf context subject) = .ok source := by
      rw [Eval.valueOf, hsubject]
      rfl
    have hnull : source.isNull = false := by
      cases source <;> cases hsource <;> rfl
    refine leaving_eq_ok_iff.mpr (bind_eq_ok_iff.mpr ⟨source, hvalue, ?_⟩)
    simp only [hnull, hsource, hresult]
    rfl
  · rcases hlast key value hvalue with hgiven | ⟨hnone, _⟩
    · exact hgiven
    · cases hnone

/-- The properties of a player. -/
def playerProperties : Properties Value := [("name", .string "Alice"), ("age", .integer 30)]

/-- A player as `n` and a number as `score`. -/
def rowOfPlayer : Context :=
  ⟨[("n", .node ⟨1, ["Player"], playerProperties⟩), ("score", .integer 7)], [], []⟩

/-- The items of `n {age: n.age + 1, .*, score, name: 'Bob', .email}`. -/
def playerItems : List (ProjectionItem Expr) :=
  [.entry "age" (.binary .add (.property (.variable "n") "age") (.literal (.integer 1))),
    .allProperties, .variable "score", .entry "name" (.literal (.string "Bob")),
    .property "email"]

/-- The age stays in front and is 30 again by `.*`, the name comes second by `.*` and is overridden
later, and the missing email is null. -/
theorem evaluate_mapProjection_player :
    (rowOfPlayer.lookup "n" = some (.node ⟨1, ["Player"], playerProperties⟩) ∧
      ∀ item ∈ playerItems, standard.ItemEvaluates rowOfPlayer item) ∧
    ∃ result : Properties Value,
      standard.evaluate (.mapProjection "n" playerItems) rowOfPlayer = .ok (.map result) ∧
      result = [("age", .integer 30), ("name", .string "Bob"), ("score", .integer 7),
        ("email", .null)] ∧
      result.keys =
        (playerItems.flatMap (ProjectionItem.introduces playerProperties)).eraseDups ∧
      ∃ before item after, playerItems = before ++ item :: after ∧
        standard.ItemGives rowOfPlayer "n" playerProperties item "name" (.string "Bob") ∧
        ∀ later ∈ after, "name" ∉ later.introduces playerProperties := by
  have hitems : ∀ item ∈ playerItems, standard.ItemEvaluates rowOfPlayer item := by
    simp only [playerItems, List.forall_mem_cons]
    exact ⟨⟨_, rfl⟩, trivial, ⟨_, rfl⟩, ⟨_, rfl⟩, trivial, List.forall_mem_nil _⟩
  obtain ⟨result, hresult, hkeys, hlast⟩ :=
    standard.evaluate_mapProjection rowOfPlayer "n" _ playerProperties rfl rfl playerItems hitems
  have hvalue : standard.evaluate (.mapProjection "n" playerItems) rowOfPlayer =
      .ok (.map [("age", .integer 30), ("name", .string "Bob"), ("score", .integer 7),
        ("email", .null)]) := rfl
  cases hvalue.symm.trans hresult
  exact ⟨⟨rfl, hitems⟩, _, hvalue, rfl, hkeys, hlast "name" (.string "Bob") rfl⟩

end Engine

end CypherExpr
