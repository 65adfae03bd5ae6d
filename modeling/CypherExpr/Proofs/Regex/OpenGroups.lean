import CypherExpr.Proofs.Regex.ClassReaders
import CypherExpr.Proofs.Regex.GroupReaders
import CypherExpr.Regex.Parser

/-!
# Reading a pattern within open groups

The machine that reads a pattern takes a token at a time.  Groups that are open around the pattern
stay at the bottom of its stack, out of reach until a parenthesis closes more groups than the
pattern has opened.
-/

namespace CypherExpr.Regex

/-- What the machine reads in one turn, other than the end of a group. -/
inductive Token where
  | opening (opening : Opening)
  | bar
  | chars (set : CharSet) (depth : Nat)
  | repetition (least : Nat) (most : Option Nat)
  | atom (atom : Atom)

/-- What follows an operator of repetition, and the mark for short matches with it. -/
def afterMark : List Char → List Char
  | '?' :: more => more
  | chars => chars

/-- The token that begins with a character. -/
def readToken (flags : Flags) (c : Char) (rest : List Char) : Option (Token × List Char) :=
  match c with
  | '(' => (readOpening flags rest).map fun found => (.opening found.1, found.2)
  | '|' => some (.bar, rest)
  | '[' => (bracketSet flags rest).map fun found => (.chars found.1.1 found.1.2, found.2)
  | '?' => some (.repetition 0 (some 1), afterMark rest)
  | '*' => some (.repetition 0 none, afterMark rest)
  | '+' => some (.repetition 1 none, afterMark rest)
  | '\x7b' =>
      (readBounds flags rest).bind fun found =>
        some (.repetition found.1.1 found.1.2, afterMark (flags.skip found.2))
  | '\\' => (readEscape flags rest).map fun found => (.atom found.1, found.2)
  | '.' => if flags.unicode then some (.atom (.set (Machine.pointSet flags)), rest) else none
  | '^' => some (.atom (.look (Machine.lineStart flags)), rest)
  | '$' => some (.atom (.look (Machine.lineEnd flags)), rest)
  | _ => some (.atom (.literal c), rest)

namespace Machine

/-- What a token does, and where reading goes on. -/
def take (machine : Machine) (token : Token) (rest : List Char) : Option Machine :=
  match token with
  | .opening (.switch flags) =>
      some { machine with
        flags := flags
        frame := { machine.frame with pieces := ⟨.empty, .empty, 0, true⟩ :: machine.frame.pieces }
        input := rest }
  | .opening (.group flags captures name) =>
      if name.any machine.names.contains then none
      else some {
        flags := flags
        names := name.toList ++ machine.names
        groups := if captures then machine.groups + 1 else machine.groups
        frame := ⟨[], [], machine.flags, if captures then some (machine.groups + 1) else none⟩
        stack := machine.frame :: machine.stack
        input := rest }
  | .bar => some (machine.nextBranch rest)
  | .chars set depth =>
      some { machine with frame := machine.frame.pushChars set depth, input := rest }
  | .repetition least most =>
      (machine.frame.repeatLast least most).map fun frame =>
        { machine with frame := frame, input := rest }
  | .atom atom => machine.addAtom atom rest

theorem repetition_eq (machine : Machine) (least : Nat) (most : Option Nat) (rest : List Char) :
    machine.repetition least most rest =
      machine.take (.repetition least most) (afterMark rest) := by
  have hmark : (match rest with
      | '?' :: more => more
      | _ => rest) = afterMark rest := by
    unfold afterMark
    split <;> rfl
  rw [take, ← hmark]
  rfl

theorem step_eq (machine : Machine) {c : Char} (hc : c ≠ ')') (rest : List Char) :
    machine.step c rest =
      (readToken machine.flags c rest).bind fun found => machine.take found.1 found.2 := by
  simp only [step, readToken, repetition_eq, readBracketed_eq, Option.bind_eq_bind]
  split
  · simp only [openGroup, Option.bind_eq_bind, Option.bind_map]
    congr 1
    funext found
    obtain ⟨opening, after⟩ := found
    cases opening <;> rfl
  · exact absurd rfl hc
  · rfl
  · simp only [Option.bind_map]
    rfl
  · rfl
  · rfl
  · rfl
  · simp only [Option.bind_assoc]
    rfl
  · simp only [Option.bind_map]
    rfl
  · split <;> rfl
  · rfl
  · rfl
  · split
    any_goals contradiction
    rfl

/-! ## What a turn does to the groups -/

/-- The group under way is the same. -/
def SameGroup (frame next : Frame) : Prop := next.outer = frame.outer ∧ next.number = frame.number

/-- What a turn does: it goes on within the group under way, opens a group in it, or closes it. -/
inductive Turn (machine : Machine) (c : Char) (next : Machine) : Prop
  | within (hstack : next.stack = machine.stack) (hframe : SameGroup machine.frame next.frame)
  | opened (hstack : next.stack = machine.frame :: machine.stack)
  | closed (hc : c = ')') (parent : Frame) (hstack : machine.stack = parent :: next.stack)
    (hframe : SameGroup parent next.frame)

theorem sameGroup_repeatLast {frame next : Frame} {least : Nat} {most : Option Nat}
    (hrepeat : frame.repeatLast least most = some next) : SameGroup frame next := by
  unfold Frame.repeatLast at hrepeat
  split at hrepeat
  · split at hrepeat
    · simp at hrepeat
    · obtain rfl := Option.some.inj hrepeat
      exact ⟨rfl, rfl⟩
  · simp at hrepeat

theorem take_inv {machine next : Machine} {token : Token} {rest : List Char}
    (htake : machine.take token rest = some next) (c : Char) :
    next.input = rest ∧ Turn machine c next := by
  unfold take at htake
  split at htake
  · obtain rfl := Option.some.inj htake
    exact ⟨rfl, .within rfl ⟨rfl, rfl⟩⟩
  · split at htake
    · simp at htake
    · obtain rfl := Option.some.inj htake
      exact ⟨rfl, .opened rfl⟩
  · obtain rfl := Option.some.inj htake
    exact ⟨rfl, .within rfl ⟨rfl, rfl⟩⟩
  · obtain rfl := Option.some.inj htake
    exact ⟨rfl, .within rfl ⟨rfl, rfl⟩⟩
  · obtain ⟨frame, hframe, rfl⟩ := Option.map_eq_some_iff.mp htake
    exact ⟨rfl, .within rfl (sameGroup_repeatLast hframe)⟩
  · unfold addAtom at htake
    split at htake
    · obtain rfl := Option.some.inj htake
      exact ⟨rfl, .within rfl ⟨rfl, rfl⟩⟩
    · obtain ⟨set, -, hset⟩ := Option.bind_eq_some_iff.mp htake
      obtain rfl := Option.some.inj hset
      exact ⟨rfl, .within rfl ⟨rfl, rfl⟩⟩
    · obtain rfl := Option.some.inj htake
      exact ⟨rfl, .within rfl ⟨rfl, rfl⟩⟩

end Machine

theorem afterMark_reader (tail : List Char) (token : Token) :
    Reader tail fun chars => some (token, afterMark chars) :=
  .onHead (c := '?') (.pure token) (.pure token) (by decide) (fun _ => rfl) rfl
    fun c rest hc => by simp [afterMark, hc]

theorem boundsToken_reader (flags : Flags) :
    Reader ['$'] fun chars => (readBounds flags chars).bind fun found =>
      some (Token.repetition found.1.1 found.1.2, afterMark (flags.skip found.2)) :=
  (readBounds_reader _ flags).bind fun bounds =>
    (afterMark_reader _ (.repetition bounds.1 bounds.2)).skip flags

theorem leaves_readToken (flags : Flags) (c : Char) (rest : List Char) :
    Leaves rest (readToken flags c rest) := by
  unfold readToken
  split
  · exact ((readOpening_reader flags).leaves rest).map Token.opening
  · exact .some (List.suffix_refl rest)
  · exact ((bracketSet_reader flags).leaves rest).map fun found => Token.chars found.1 found.2
  · exact (afterMark_reader [] _).leaves rest
  · exact (afterMark_reader [] _).leaves rest
  · exact (afterMark_reader [] _).leaves rest
  · exact (boundsToken_reader flags).leaves rest
  · exact ((leaves_readEscape flags rest).trans (List.tail_suffix rest)).map Token.atom
  · exact .ite (.some (List.suffix_refl rest)) .none
  · exact .some (List.suffix_refl rest)
  · exact .some (List.suffix_refl rest)
  · exact .some (List.suffix_refl rest)

theorem readToken_readsOn {flags : Flags} {c : Char} {rest : List Char}
    (hbrace : c = '\\' → ¬EndsAtBrace flags rest) :
    ReadsOn ['$'] (readToken flags c rest) (readToken flags c (rest ++ closing)) := by
  unfold readToken
  split
  · exact ((readOpening_reader flags).readsOn rest).map Token.opening
  · exact .read (.append rest)
  · exact (((bracketSet_reader flags).readsOn rest).weaken List.nil_suffix).map fun found =>
      Token.chars found.1 found.2
  · exact (afterMark_reader _ _).readsOn rest
  · exact (afterMark_reader _ _).readsOn rest
  · exact (afterMark_reader _ _).readsOn rest
  · exact (boundsToken_reader flags).readsOn rest
  · exact (readEscape_readsOn (hbrace rfl)).map Token.atom
  · exact .ite (.read (.append rest)) .failed
  · exact .read (.append rest)
  · exact .read (.append rest)
  · exact .read (.append rest)

namespace Machine

theorem closeGroup_inv {machine next : Machine} {rest : List Char}
    (hclose : machine.closeGroup rest = some next) :
    next.input = rest ∧ Turn machine ')' next := by
  unfold closeGroup at hclose
  split at hclose
  · simp at hclose
  · next parent stack hstack =>
      obtain rfl := Option.some.inj hclose
      exact ⟨rfl, .closed rfl parent hstack ⟨rfl, rfl⟩⟩

/-- All that a step can do. -/
theorem step_inv {machine next : Machine} {c : Char} {rest : List Char}
    (hstep : machine.step c rest = some next) : next.input <:+ rest ∧ Turn machine c next := by
  by_cases hc : c = ')'
  · subst hc
    obtain ⟨hinput, hturn⟩ := closeGroup_inv hstep
    exact ⟨hinput ▸ List.suffix_refl _, hturn⟩
  · rw [step_eq machine hc] at hstep
    obtain ⟨found, hfound, htake⟩ := Option.bind_eq_some_iff.mp hstep
    obtain ⟨hinput, hturn⟩ := take_inv htake c
    exact ⟨hinput ▸ leaves_readToken _ _ _ _ hfound, hturn⟩

/-! ## Whole runs -/

/-- Runs the machine to the end of the pattern. -/
def finish (machine : Machine) : Option Machine := machine.run (machine.input.length + 1)

theorem length_input_of_step {machine next : Machine} {c : Char} {rest : List Char}
    (hskip : machine.flags.skip machine.input = c :: rest)
    (hstep : machine.step c rest = some next) : next.input.length < machine.input.length := by
  have hrest := (step_inv hstep).1.length_le
  have hinput := (machine.flags.skip_suffix machine.input).length_le
  rw [hskip, List.length_cons] at hinput
  omega

/-- Any fuel beyond the length of the pattern leads to the end. -/
theorem run_eq_run {machine : Machine} {fuel fuel' : Nat} (hfuel : machine.input.length < fuel)
    (hfuel' : machine.input.length < fuel') : machine.run fuel = machine.run fuel' := by
  induction fuel generalizing machine fuel' with
  | zero => exact absurd hfuel (Nat.not_lt_zero _)
  | succ fuel ih =>
      obtain ⟨fuel', rfl⟩ := Nat.exists_eq_add_one_of_ne_zero (Nat.ne_zero_of_lt hfuel')
      rw [run, run]
      cases hskip : machine.flags.skip machine.input with
      | nil => rfl
      | cons c rest =>
          cases hstep : machine.step c rest with
          | none => simp [hstep]
          | some next =>
              have hlength := length_input_of_step hskip hstep
              simpa [hstep] using @ih next fuel' (by omega) (by omega)

theorem finish_of_nil {machine : Machine} (hskip : machine.flags.skip machine.input = []) :
    machine.finish = some { machine with input := [] } := by
  rw [finish, run, hskip]

theorem finish_of_cons {machine : Machine} {c : Char} {rest : List Char}
    (hskip : machine.flags.skip machine.input = c :: rest) :
    machine.finish = (machine.step c rest).bind finish := by
  rw [finish, run, hskip]
  cases hstep : machine.step c rest with
  | none => simp [hstep]
  | some next =>
      simpa [hstep, finish] using
        run_eq_run (length_input_of_step hskip hstep) (Nat.lt_succ_self _)

/-- What holds of a machine at the end of its pattern, and before a turn after which it holds, holds
of every machine. -/
theorem finish_induction {P : Machine → Prop}
    (hend : ∀ machine, machine.flags.skip machine.input = [] → P machine)
    (hturn : ∀ machine c rest, machine.flags.skip machine.input = c :: rest →
      (∀ next, machine.step c rest = some next → P next) → P machine) (machine : Machine) :
    P machine := by
  induction hlength : machine.input.length using Nat.strongRecOn generalizing machine with
  | ind length ih =>
      cases hskip : machine.flags.skip machine.input with
      | nil => exact hend machine hskip
      | cons c rest =>
          refine hturn machine c rest hskip fun next hstep => ?_
          exact ih _ (hlength ▸ length_input_of_step hskip hstep) next rfl

/-- A run closes at most as many groups as there are closing parentheses left. -/
theorem length_stack_finish {machine final : Machine} (hfinish : machine.finish = some final) :
    machine.stack.length ≤ final.stack.length + machine.input.count ')' := by
  induction machine using finish_induction with
  | hend machine hskip =>
      rw [finish_of_nil hskip] at hfinish
      obtain rfl := Option.some.inj hfinish
      exact Nat.le_add_right _ _
  | hturn machine c rest hskip ih =>
      rw [finish_of_cons hskip] at hfinish
      obtain ⟨next, hstep, hrest⟩ := Option.bind_eq_some_iff.mp hfinish
      obtain ⟨hinput, hturn⟩ := step_inv hstep
      have hnext := ih next hstep hrest
      have hcount : (c :: rest).count ')' ≤ machine.input.count ')' :=
        hskip ▸ (machine.flags.skip_suffix machine.input).sublist.count_le ')'
      have hcount' := hinput.sublist.count_le ')'
      rw [List.count_cons] at hcount
      cases hturn with
      | within hstack =>
          rw [hstack] at hnext
          omega
      | opened hstack =>
          rw [hstack, List.length_cons] at hnext
          omega
      | closed hc parent hstack =>
          rw [hstack, List.length_cons]
          simp only [hc, beq_self_eq_true, if_true] at hcount
          omega

/-- The group at the bottom of the stack. -/
def base (machine : Machine) : Frame := machine.stack.getLastD machine.frame

theorem Turn.base {machine next : Machine} {c : Char} (hturn : Turn machine c next) :
    SameGroup machine.base next.base := by
  unfold Machine.base
  cases hturn with
  | within hstack hframe =>
      rw [hstack]
      cases machine.stack with
      | nil => exact hframe
      | cons parent stack => exact ⟨rfl, rfl⟩
  | opened hstack =>
      rw [hstack, List.getLastD_cons]
      exact ⟨rfl, rfl⟩
  | closed _ parent hstack hframe =>
      rw [hstack, List.getLastD_cons]
      cases next.stack with
      | nil => exact hframe
      | cons parent stack => exact ⟨rfl, rfl⟩

/-- A run leaves the group at the bottom what it is. -/
theorem base_finish {machine final : Machine} (hfinish : machine.finish = some final) :
    SameGroup machine.base final.base := by
  induction machine using finish_induction with
  | hend machine hskip =>
      rw [finish_of_nil hskip] at hfinish
      obtain rfl := Option.some.inj hfinish
      exact ⟨rfl, rfl⟩
  | hturn machine c rest hskip ih =>
      rw [finish_of_cons hskip] at hfinish
      obtain ⟨next, hstep, hrest⟩ := Option.bind_eq_some_iff.mp hfinish
      have hnext := ih next hstep hrest
      have hbase := (step_inv hstep).2.base
      exact ⟨hnext.1.trans hbase.1, hnext.2.trans hbase.2⟩

/-! ## Within open groups -/

/-- The machine with further open groups around those it has, and another rest of the pattern. -/
def atop (machine : Machine) (outer : List Frame) (input : List Char) : Machine :=
  { machine with stack := machine.stack ++ outer, input := input }

/-- Not all of the groups are closed at the end, however far the machine gets. -/
def Doomed (machine : Machine) : Prop :=
  ∀ final, machine.finish = some final → final.stack ≠ []

theorem doomed_of_count {machine : Machine}
    (hcount : machine.input.count ')' < machine.stack.length) : machine.Doomed := by
  intro final hfinish hstack
  have hlength := length_stack_finish hfinish
  rw [hstack, List.length_nil] at hlength
  omega

theorem take_atop (machine : Machine) (outer : List Frame) (input : List Char) (token : Token)
    (rest rest' : List Char) :
    (machine.atop outer input).take token rest' =
      (machine.take token rest).map fun next => next.atop outer rest' := by
  unfold take
  split
  · rfl
  · next flags captures name =>
      change (if name.any machine.names.contains then none else _) = _
      split <;> rfl
  · rfl
  · rfl
  · simp only [Option.map_map]
    rfl
  · unfold addAtom
    split
    · rfl
    · simp only [Option.map_bind]
      rfl
    · rfl

theorem closeGroup_atop {machine : Machine} (hstack : machine.stack ≠ []) (outer : List Frame)
    (input rest rest' : List Char) :
    (machine.atop outer input).closeGroup rest' =
      (machine.closeGroup rest).map fun next => next.atop outer rest' := by
  obtain ⟨parent, stack, hparent⟩ := List.exists_cons_of_ne_nil hstack
  simp only [closeGroup, atop, hparent, List.cons_append, Option.map_some]

/-- A turn that can be taken alone can be taken within open groups. -/
theorem step_atop {machine next : Machine} {c : Char} {rest : List Char}
    (hstep : machine.step c rest = some next) :
    ∃ input', Followed next.input input' ∧ ∀ outer input,
      (machine.atop outer input).step c (rest ++ closing) = some (next.atop outer input') := by
  by_cases hc : c = ')'
  · subst hc
    have hstack : machine.stack ≠ [] := by
      intro hnil
      simp [step, closeGroup, hnil] at hstep
    have hinput := (closeGroup_inv hstep).1
    refine ⟨rest ++ closing, hinput ▸ .append rest, fun outer input => ?_⟩
    exact (closeGroup_atop hstack outer input rest _).trans (congrArg _ hstep)
  · rw [step_eq machine hc] at hstep
    obtain ⟨⟨token, after⟩, hfound, htake⟩ := Option.bind_eq_some_iff.mp hstep
    have hbrace : c = '\\' → ¬EndsAtBrace machine.flags rest := by
      rintro rfl hends
      simp [readToken, (readEscape_of_endsAtBrace hends).1] at hfound
    have hread := readToken_readsOn hbrace
    rw [hfound] at hread
    generalize hfound' : readToken machine.flags c (rest ++ closing) = outcome at hread
    cases hread with
    | read hafter =>
        have hinput : next.input = after := (take_inv htake c).1
        refine ⟨_, hinput ▸ hafter, fun outer input => ?_⟩
        rw [step_eq _ hc]
        change (readToken machine.flags c (rest ++ closing)).bind _ = _
        rw [hfound', Option.bind_some, take_atop machine outer input token after, htake]
        rfl

/-- What has been left of the closing cannot close a group. -/
theorem doomed_atop {machine : Machine} {outer : List Frame} (houter : outer ≠ [])
    {input : List Char} (hinput : input <:+ ['$']) : (machine.atop outer input).Doomed := by
  apply doomed_of_count
  have hcount : input.count ')' ≤ 0 := hinput.sublist.count_le ')'
  have hlength := List.length_pos_iff.mpr houter
  simp only [atop, List.length_append]
  omega

/-- A brace cannot be repeated without bounds. -/
theorem doomed_of_brace {machine : Machine} {rest : List Char}
    (hinput : machine.input = '\x7b' :: rest) (hrest : Followed [] (machine.flags.skip rest)) :
    machine.Doomed := by
  have hskip : machine.flags.skip machine.input = '\x7b' :: rest := by
    rw [hinput]
    unfold Flags.skip
    split <;> rfl
  have hnone : machine.finish = none := by
    rw [finish_of_cons hskip, step_eq machine (by decide)]
    simp [readToken, readBounds_eq_none hrest]
  simp [Doomed, hnone]

/-- A turn that cannot be taken alone comes to no good within open groups, unless it is the end of a
group that is open there. -/
theorem step_atop_none {machine : Machine} {c : Char} {rest : List Char}
    (hstep : machine.step c rest = none) (hclose : c = ')' → machine.stack ≠ [])
    {outer : List Frame} (houter : outer ≠ []) {input : List Char} {next : Machine}
    (hnext : (machine.atop outer input).step c (rest ++ closing) = some next) : next.Doomed := by
  by_cases hc : c = ')'
  · subst hc
    have hclosed := closeGroup_atop (hclose rfl) outer input rest (rest ++ closing)
    replace hclosed := hclosed.symm.trans hnext
    rw [show machine.closeGroup rest = none from hstep] at hclosed
    simp at hclosed
  · rw [step_eq _ hc] at hstep hnext
    obtain ⟨⟨token, after⟩, hfound, htake⟩ := Option.bind_eq_some_iff.mp hnext
    change readToken machine.flags c (rest ++ closing) = _ at hfound
    by_cases hbrace : c = '\\' ∧ EndsAtBrace machine.flags rest
    · obtain ⟨rfl, hends⟩ := hbrace
      obtain ⟨escaped, hescaped, heq⟩ := Option.map_eq_some_iff.mp hfound
      obtain ⟨boundary, more, hrest, rfl⟩ := (readEscape_of_endsAtBrace hends).2 escaped hescaped
      obtain ⟨rfl, rfl⟩ := Prod.mk.inj heq
      obtain rfl := Option.some.inj htake
      obtain ⟨more', hrest', hskip⟩ := hends
      obtain rfl : more = more' := by simpa [hrest] using hrest'
      exact doomed_of_brace rfl (hskip ▸ (Followed.append more).skip machine.flags)
    · have hread := readToken_readsOn fun hbackslash hends => hbrace ⟨hbackslash, hends⟩
      rw [hfound] at hread
      generalize readToken machine.flags c rest = outcome at hread hstep
      cases hread with
      | @read _ before _ hafter =>
          rw [take_atop machine outer input token before,
            show machine.take token before = none from hstep] at htake
          simp at htake
      | beyond hafter =>
          rw [take_atop machine outer input token after] at htake
          obtain ⟨taken, -, rfl⟩ := Option.map_eq_some_iff.mp htake
          exact doomed_atop houter hafter

/-! ## Whole runs within open groups -/

/-- Reading comes to a parenthesis that closes more groups than have been opened. -/
inductive ClosesUnopened : Machine → Prop
  | here {machine : Machine} {rest : List Char}
    (hskip : machine.flags.skip machine.input = ')' :: rest) (hstack : machine.stack = []) :
    ClosesUnopened machine
  | later {machine next : Machine} {c : Char} {rest : List Char}
    (hskip : machine.flags.skip machine.input = c :: rest)
    (hstep : machine.step c rest = some next) (hnext : ClosesUnopened next) :
    ClosesUnopened machine

theorem finish_atop_of_nil {machine : Machine} {input : List Char}
    (hskip : machine.flags.skip input = []) (outer : List Frame) :
    (machine.atop outer input).finish = some (machine.atop outer []) :=
  finish_of_nil hskip

theorem finish_atop_of_cons {machine : Machine} {input : List Char} {c : Char} {rest : List Char}
    (hskip : machine.flags.skip input = c :: rest) (outer : List Frame) :
    (machine.atop outer input).finish = ((machine.atop outer input).step c rest).bind finish :=
  finish_of_cons hskip

/-- A pattern that can be read to its end can be read to its end within open groups, and the closing
is what is left, or nothing if the pattern ends in a comment. -/
theorem finish_atop {machine final : Machine} (hfinish : machine.finish = some final)
    {input : List Char} (hinput : Followed machine.input input) :
    ∃ ending, Followed [] ending ∧ ∀ outer,
      (machine.atop outer input).finish = (final.atop outer ending).finish := by
  induction machine using finish_induction generalizing input with
  | hend machine hskip =>
      rw [finish_of_nil hskip] at hfinish
      obtain rfl := Option.some.inj hfinish
      have hending := hinput.skip machine.flags
      rw [hskip] at hending
      refine ⟨machine.flags.skip input, hending, fun outer => ?_⟩
      generalize hskip' : machine.flags.skip input = ending at hending
      cases hending with
      | nil =>
          change _ = (machine.atop outer closing).finish
          rw [finish_atop_of_cons hskip', finish_atop_of_cons machine.flags.skip_closing]
          rfl
      | swallowed =>
          change _ = (machine.atop outer []).finish
          rw [finish_atop_of_nil hskip', finish_atop_of_nil machine.flags.skip_nil]
  | hturn machine c rest hskip ih =>
      rw [finish_of_cons hskip] at hfinish
      obtain ⟨next, hstep, hrest⟩ := Option.bind_eq_some_iff.mp hfinish
      obtain ⟨input', hinput', hatop⟩ := step_atop hstep
      obtain ⟨ending, hending, hrun⟩ := ih next hstep hrest hinput'
      have hskip' := hinput.skip machine.flags
      rw [hskip] at hskip'
      generalize hrest' : machine.flags.skip input = skipped at hskip'
      cases hskip' with
      | cons =>
          refine ⟨ending, hending, fun outer => ?_⟩
          rw [finish_atop_of_cons hrest', hatop, Option.bind_some, hrun]

/-- A pattern that cannot be read to its end leaves a group open around it open, unless it closes
it. -/
theorem finish_atop_none {machine : Machine} (hfinish : machine.finish = none)
    (hcloses : ¬machine.ClosesUnopened) {input : List Char}
    (hinput : Followed machine.input input) {outer : List Frame} (houter : outer ≠ []) :
    (machine.atop outer input).Doomed := by
  induction machine using finish_induction generalizing input with
  | hend machine hskip => simp [finish_of_nil hskip] at hfinish
  | hturn machine c rest hskip ih =>
      rw [finish_of_cons hskip] at hfinish
      have hskip' := hinput.skip machine.flags
      rw [hskip] at hskip'
      generalize hrest' : machine.flags.skip input = skipped at hskip'
      cases hskip' with
      | cons =>
          intro final hfinal
          rw [finish_atop_of_cons hrest'] at hfinal
          obtain ⟨next', hstep', hnext'⟩ := Option.bind_eq_some_iff.mp hfinal
          cases hstep : machine.step c rest with
          | none =>
              have hclose : c = ')' → machine.stack ≠ [] := by
                rintro rfl hstack
                exact hcloses (.here hskip hstack)
              exact step_atop_none hstep hclose houter hstep' final hnext'
          | some next =>
              rw [hstep] at hfinish
              obtain ⟨input', hinput', hatop⟩ := step_atop hstep
              rw [hatop] at hstep'
              obtain rfl := Option.some.inj hstep'
              exact ih next hstep hfinish (fun hnext => hcloses (.later hskip hstep hnext)) hinput'
                final hnext'

/-- Groups that a pattern leaves open stay open within an open group. -/
theorem doomed_of_open {machine : Machine} (hstack : machine.stack ≠ []) {outer : List Frame}
    (houter : outer ≠ []) {ending : List Char} (hending : Followed [] ending) :
    (machine.atop outer ending).Doomed := by
  apply doomed_of_count
  have hcount : ending.count ')' ≤ 1 := by cases hending <;> decide
  have hlength := List.length_pos_iff.mpr hstack
  have hlength' := List.length_pos_iff.mpr houter
  simp only [atop, List.length_append]
  omega

end Machine

end CypherExpr.Regex
