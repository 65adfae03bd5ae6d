import CypherExpr.Proofs.Regex.Matching
import CypherExpr.Proofs.Regex.OpenGroups
import CypherExpr.Proofs.Evaluation.Operators

/-!
# Patterns between anchors

A text is matched as a whole against a pattern by writing the pattern between `^(?:` and `)$`.  For
most patterns this comes to what the pattern by itself says.  It does not where the pattern closes a
group that it has not opened, since that is then the group around it; where it ends in a comment,
which goes on through the closing; and where it is within the limits on nesting and size only with
the anchors or only without them.
-/

namespace CypherExpr

namespace Regex

/-! ## Reading with and without anchors -/

/-- What the machine makes of the rest of its pattern, if no group is left open. -/
def Machine.result (machine : Machine) : Option Piece :=
  machine.finish.bind fun final => if final.stack.isEmpty then some final.frame.total else none

/-- What a well-formed pattern stands for, however large it is. -/
def read (pattern : String) : Option Piece := (Machine.start pattern.toList).result

/-- Whether a pattern is within the limits on nesting and on size. -/
def Piece.isWithinLimits (piece : Piece) : Bool :=
  decide (piece.depth ≤ nestingLimit) && piece.shape.fits

/-- A whole pattern between anchors. -/
def Piece.enclosed (piece : Piece) : Piece where
  regex := piece.regex.enclosed
  shape := .ofConcat [.look .textStart, piece.shape, .look .textEnd]
  depth := piece.depth + 2
  isSwitch := false

/-- A pattern is valid if it is well formed and within the limits. -/
theorem parse_eq (pattern : String) :
    parse pattern = (read pattern).bind fun whole =>
      if whole.isWithinLimits then some whole.regex else none := by
  simp only [parse, read, Machine.result, Option.bind_eq_bind]
  change (Machine.start pattern.toList).finish.bind _ = _
  cases (Machine.start pattern.toList).finish with
  | none => rfl
  | some final =>
      simp only [Option.bind_some]
      cases final.stack.isEmpty with
      | false => rfl
      | true => simp [Piece.isWithinLimits]

/-- The pattern closes a group that it has not opened. -/
def ClosesUnopened (pattern : String) : Prop := (Machine.start pattern.toList).ClosesUnopened

/-- The pattern is well formed, and a closing parenthesis behind it is no part of it. -/
def EndsInComment (pattern : String) : Prop :=
  (read pattern).isSome ∧ (read (pattern ++ ")$")).isSome

/-- The group around a pattern, in which the start of the text has been read. -/
def outerGroup : Frame := ⟨[], [⟨.look .textStart, .look .textStart, 0, false⟩], .initial, none⟩

theorem read_anchored (pattern : String) :
    read (anchored pattern) =
      ((Machine.start pattern.toList).atop [outerGroup] (pattern.toList ++ closing)).result := by
  have hchars : (anchored pattern).toList =
      '^' :: '(' :: '?' :: ':' :: (pattern.toList ++ closing) := by
    simp [anchored, String.toList_append, closing]
  rw [read, hchars, Machine.result, Machine.finish_of_cons rfl]
  change (Machine.finish _).bind _ = _
  rw [Machine.finish_of_cons rfl]
  rfl

theorem read_append (pattern : String) :
    read (pattern ++ ")$") =
      ((Machine.start pattern.toList).atop [] (pattern.toList ++ closing)).result := by
  rw [read, String.toList_append]
  rfl

theorem Machine.result_eq_none {machine : Machine} (hdoomed : machine.Doomed) :
    machine.result = none := by
  rw [result, Option.bind_eq_none_iff]
  intro final hfinish
  simp [hdoomed final hfinish]

theorem finish_of_closesUnopened {machine : Machine} (hcloses : machine.ClosesUnopened) :
    machine.finish = none := by
  induction hcloses with
  | @here machine rest hskip hstack =>
      rw [Machine.finish_of_cons hskip]
      simp [Machine.step, Machine.closeGroup, hstack]
  | later hskip hstep hnext ih => rw [Machine.finish_of_cons hskip, hstep, Option.bind_some, ih]

/-- A pattern that closes a group that it has not opened is not well formed. -/
theorem read_of_closesUnopened {pattern : String} (hcloses : ClosesUnopened pattern) :
    read pattern = none := by
  rw [read, Machine.result, finish_of_closesUnopened hcloses]
  rfl

/-- Neither is it between anchors if it is not by itself and does not close a group that it has not
opened. -/
theorem read_anchored_of_none {pattern : String} (hread : read pattern = none)
    (hcloses : ¬ClosesUnopened pattern) : read (anchored pattern) = none := by
  have houter : [outerGroup] ≠ [] := List.cons_ne_nil _ _
  rw [read_anchored]
  apply Machine.result_eq_none
  cases hfinish : (Machine.start pattern.toList).finish with
  | none => exact Machine.finish_atop_none hfinish hcloses (.append _) houter
  | some final =>
      obtain ⟨ending, hending, hatop⟩ := Machine.finish_atop hfinish (.append _)
      have hstack : final.stack ≠ [] := by
        intro hnil
        simp [read, Machine.result, hfinish, hnil] at hread
      intro closed hclosed
      exact Machine.doomed_of_open hstack houter hending closed ((hatop _).symm.trans hclosed)

/-- The group around a pattern is closed, and the end of the text is read behind it. -/
theorem result_atop_closing {final : Machine} (hstack : final.stack = [])
    (houter : final.frame.outer = .initial) (hnumber : final.frame.number = none) :
    (final.atop [outerGroup] closing).result = some final.frame.total.enclosed := by
  have hclose : (final.atop [outerGroup] closing).step ')' ['$'] =
      some ⟨.initial, final.names, final.groups,
        outerGroup.push ⟨final.frame.total.regex, final.frame.total.shape,
          final.frame.total.depth + 1, false⟩, [], ['$']⟩ := by
    simp [Machine.step, Machine.closeGroup, Machine.atop, hstack, houter, hnumber]
  rw [Machine.result, Machine.finish_atop_of_cons final.flags.skip_closing, hclose,
    Option.bind_some, Machine.finish_of_cons rfl]
  change (Machine.finish _).bind _ = _
  rw [Machine.finish_of_nil rfl]
  simp [Frame.total, Frame.sequence, Frame.push, outerGroup, Piece.enclosed, enclosed,
    Machine.lineEnd, Flags.initial]

theorem read_eq_some_iff {pattern : String} {whole : Piece} :
    read pattern = some whole ↔ ∃ final, (Machine.start pattern.toList).finish = some final ∧
      final.stack = [] ∧ final.frame.total = whole := by
  simp only [read, Machine.result, Option.bind_eq_some_iff, List.isEmpty_iff,
    Option.ite_none_right_eq_some, Option.some.injEq]

/-- A well-formed pattern either takes the closing into a comment, and then the group around it is
not closed, or it stands between the anchors for what it stands for by itself. -/
theorem read_anchored_of_some {pattern : String} {whole : Piece}
    (hread : read pattern = some whole) :
    EndsInComment pattern ∧ read (anchored pattern) = none ∨
      ¬EndsInComment pattern ∧ read (anchored pattern) = some whole.enclosed := by
  obtain ⟨final, hfinish, hstack, rfl⟩ := read_eq_some_iff.mp hread
  obtain ⟨houter, hnumber⟩ := Machine.base_finish hfinish
  rw [Machine.base, hstack] at houter hnumber
  obtain ⟨ending, hending, hatop⟩ := Machine.finish_atop hfinish (.append _)
  have hresult (outer : List Frame) :
      ((Machine.start pattern.toList).atop outer (pattern.toList ++ closing)).result =
        (final.atop outer ending).result :=
    congrArg (Option.bind · _) (hatop outer)
  rw [EndsInComment, read_anchored, read_append, hresult, hresult, hread]
  cases hending with
  | nil =>
      have hnone : (final.atop [] closing).result = none := by
        rw [Machine.result, Machine.finish_atop_of_cons final.flags.skip_closing]
        simp [Machine.step, Machine.closeGroup, Machine.atop, hstack]
      refine .inr ⟨?_, result_atop_closing hstack houter hnumber⟩
      simp [hnone]
  | swallowed =>
      have hatop (outer : List Frame) : (final.atop outer []).result =
          if outer.isEmpty then some final.frame.total else none := by
        rw [Machine.result, Machine.finish_atop_of_nil final.flags.skip_nil, Option.bind_some]
        simp [Machine.atop, hstack]
      exact .inl (by simp [hatop])

/-! ## Anchors around a pattern -/

/-- What a pattern is like that means the same between anchors as by itself. -/
structure Enclosable (pattern : String) : Prop where
  /-- A pattern that closes a group that it has not opened is not valid between anchors either. -/
  unopened : ClosesUnopened pattern → parse (anchored pattern) = none
  /-- A valid pattern does not take the closing into a comment. -/
  comment : (parse pattern).isSome → ¬EndsInComment pattern
  /-- A well-formed pattern is within the limits with the anchors if and only if it is without. -/
  limits : ∀ whole, read pattern = some whole → ¬EndsInComment pattern →
    whole.enclosed.isWithinLimits = whole.isWithinLimits

/-- Such a pattern stands between anchors for what it stands for by itself. -/
theorem Enclosable.parse_anchored {pattern : String} (henclosable : Enclosable pattern) :
    parse (anchored pattern) = (parse pattern).map enclosed := by
  cases hread : read pattern with
  | none =>
      have hparse : parse pattern = none := by simp [parse_eq, hread]
      rw [hparse, Option.map_none]
      by_cases hcloses : ClosesUnopened pattern
      · exact henclosable.unopened hcloses
      · simp [parse_eq, read_anchored_of_none hread hcloses]
  | some whole =>
      rcases read_anchored_of_some hread with ⟨hcomment, hnone⟩ | ⟨hcomment, henclosed⟩
      · have hparse : parse pattern = none :=
          Option.not_isSome_iff_eq_none.mp fun hsome => henclosable.comment hsome hcomment
        rw [hparse, parse_eq, hnone]
        rfl
      · rw [parse_eq, parse_eq, henclosed, hread, Option.bind_some, Option.bind_some,
          henclosable.limits whole hread hcomment]
        cases whole.isWithinLimits <;> rfl

/-- A pattern is such a pattern already if it is valid between anchors if and only if it is valid by
itself. -/
theorem enclosable_of_isSome {pattern : String}
    (hvalid : (parse (anchored pattern)).isSome = (parse pattern).isSome) : Enclosable pattern where
  unopened hcloses := by
    have hparse : parse pattern = none := by simp [parse_eq, read_of_closesUnopened hcloses]
    simpa [hparse] using hvalid
  comment hsome hcomment := by
    obtain ⟨whole, hread⟩ := Option.isSome_iff_exists.mp hcomment.1
    rcases read_anchored_of_some hread with ⟨-, hnone⟩ | ⟨hother, -⟩
    · rw [hsome, parse_eq, hnone] at hvalid
      simp at hvalid
    · exact hother hcomment
  limits whole hread hcomment := by
    rcases read_anchored_of_some hread with ⟨hother, -⟩ | ⟨-, henclosed⟩
    · exact absurd hother hcomment
    · rw [parse_eq, parse_eq, hread, henclosed] at hvalid
      cases hwhole : whole.isWithinLimits <;> cases hanchored : whole.enclosed.isWithinLimits <;>
        simp [hwhole, hanchored] at hvalid ⊢

end Regex

/-- What a whole match comes to, going by the pattern taken by itself: true if it matches the whole
text, false if it is valid and does not, and a failure if it is not valid. -/
structure Outcome.IsWholeMatch (outcome : Outcome Value) (text pattern : String) : Prop where
  isTrue : outcome = .ok (.boolean true) ↔
    ∃ regex, Regex.parse pattern = some regex ∧ regex.MatchesWhole text
  isFalse : outcome = .ok (.boolean false) ↔
    ∃ regex, Regex.parse pattern = some regex ∧ ¬regex.MatchesWhole text
  refused : Regex.parse pattern = none →
    ∃ error, outcome = .error error ∧ error.root = .invalidRegex pattern

namespace Engine

open Outcome

variable (engine : Engine) {context : Context} {left right : Expr} {text pattern : String}

/-- The text is matched against what is made of the pattern between anchors. -/
theorem eval_regexMatch {budget : Nat}
    (hleft : engine.eval budget left context = .ok (.string text))
    (hright : engine.eval budget right context = .ok (.string pattern)) :
    engine.eval (budget + 1) (.binary .regexMatch left right) context =
      (Regex.parse (Regex.anchored pattern)).elim
        ((Outcome.fail (.invalidRegex pattern)).leaving (.binary .regexMatch left right))
        fun regex => .ok (.boolean (regex.isMatch text)) := by
  rw [engine.eval_binary .regexMatch hleft hright]
  simp only [Eval.binary, StringPredicate.regexMatch, StringPredicate.lift, Regex.compile]
  cases Regex.parse (Regex.anchored pattern) <;> rfl

/-- A text matches a pattern as a whole just if the pattern by itself matches the whole text, where
the pattern means the same between anchors. -/
theorem evaluate_isWholeMatch_iff
    (hleft : engine.eval engine.options.maxDepth left context = .ok (.string text))
    (hright : engine.eval engine.options.maxDepth right context = .ok (.string pattern)) :
    (engine.evaluate (.binary .regexMatch left right) context).IsWholeMatch text pattern ↔
      Regex.Enclosable pattern := by
  rw [evaluate, engine.eval_regexMatch hleft hright]
  constructor
  · intro hmatch
    apply Regex.enclosable_of_isSome
    cases hparse : Regex.parse pattern with
    | none =>
        obtain ⟨error, herror, -⟩ := hmatch.refused hparse
        cases hanchored : Regex.parse (Regex.anchored pattern) with
        | none => rfl
        | some regex => simp [hanchored] at herror
    | some regex =>
        cases hanchored : Regex.parse (Regex.anchored pattern) with
        | none =>
            rw [hanchored] at hmatch
            -- a valid pattern matches or does not, so it cannot come to an error
            by_cases hwhole : regex.MatchesWhole text
            · cases hmatch.isTrue.mpr ⟨regex, hparse, hwhole⟩
            · cases hmatch.isFalse.mpr ⟨regex, hparse, hwhole⟩
        | some regex => rfl
  · intro henclosable
    rw [henclosable.parse_anchored]
    cases hparse : Regex.parse pattern with
    | none =>
        exact ⟨by simp [hparse, fail, leaving], by simp [hparse, fail, leaving],
          fun _ => ⟨_, rfl, EvalError.root_leaving _ _⟩⟩
    | some regex =>
        have hmatch := Regex.isMatch_enclosed regex text
        exact ⟨by simp [hparse, ← hmatch], by simp [hparse, ← hmatch], by simp [hparse]⟩

/-- Two strings under the names `a` and `b`. -/
def rowOfStrings (a b : String) : Context := ⟨[("a", .string a), ("b", .string b)], [], []⟩

/-- One or more `a` before a `b`, matched against `aab`. -/
theorem evaluate_isWholeMatch_iff_repeated :
    (standard.eval 512 (.variable "a") (rowOfStrings "aab" "a+b") = .ok (.string "aab") ∧
      standard.eval 512 (.variable "b") (rowOfStrings "aab" "a+b") = .ok (.string "a+b")) ∧
    (standard.evaluate (.binary .regexMatch (.variable "a") (.variable "b"))
      (rowOfStrings "aab" "a+b")).IsWholeMatch "aab" "a+b" :=
  ⟨⟨rfl, rfl⟩, (standard.evaluate_isWholeMatch_iff rfl rfl).mpr
    (Regex.enclosable_of_isSome (by decide +kernel))⟩

/-- The parentheses of `a)(b` are not balanced, so it is not a valid pattern; between anchors they
close the group around it and open another, and the text `ab` matches. -/
theorem regexMatch_unbalanced :
    Regex.parse "a)(b" = none ∧
    standard.evaluate (.binary .regexMatch (.variable "a") (.variable "b"))
      (rowOfStrings "ab" "a)(b") = .ok (.boolean true) ∧
    ¬ (standard.evaluate (.binary .regexMatch (.variable "a") (.variable "b"))
      (rowOfStrings "ab" "a)(b")).IsWholeMatch "ab" "a)(b" := by
  have hinvalid : Regex.parse "a)(b" = none := rfl
  have hmatch : (Regex.parse (Regex.anchored "a)(b")).map (·.isMatch "ab") = some true := by
    decide +kernel
  have htrue : standard.evaluate (.binary .regexMatch (.variable "a") (.variable "b"))
      (rowOfStrings "ab" "a)(b") = .ok (.boolean true) := by
    obtain ⟨regex, hregex, hmatch⟩ := Option.map_eq_some_iff.mp hmatch
    rw [evaluate, standard.eval_regexMatch rfl rfl, hregex, Option.elim_some, hmatch]
  refine ⟨hinvalid, htrue, fun hwhole => ?_⟩
  obtain ⟨error, herror, -⟩ := hwhole.refused hinvalid
  cases htrue.symm.trans herror

end Engine

end CypherExpr
