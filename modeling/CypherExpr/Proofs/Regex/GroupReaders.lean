import CypherExpr.Proofs.Regex.Readers

/-!
# Starts of groups before the closing

Flag letters may run into the closing, whose parenthesis then ends them.  What is left of the
closing cannot close a group.
-/

namespace CypherExpr.Regex

variable (tail : List Char)

/-! ## Groups -/

theorem readName_append (chars : List Char) :
    readName (chars ++ closing) =
      (readName chars).map fun found => (found.1, found.2 ++ closing) := by
  unfold readName
  rw [splitAt?_append (by decide)]
  cases splitAt? ['>'] chars with
  | none => rfl
  | some split =>
      obtain ⟨name, rest⟩ := split
      cases name with
      | nil => rfl
      | cons first others =>
          simp only [Option.map_some]
          split <;> rfl

theorem readName_reader : Reader tail readName where
  leaves chars := by
    unfold readName
    split
    · next first others rest hsplit => exact .ite (.some (splitAt?_suffix hsplit)) .none
    · exact .none
  readsOn chars := by
    rw [readName_append]
    cases readName chars with
    | none => exact .failed
    | some found => exact .read (.append found.2)

theorem leaves_readFlags (flags : Flags) (on : Bool) (seen chars : List Char) :
    Leaves chars (readFlags flags on seen chars) := by
  induction chars generalizing flags on seen with
  | nil => exact .none
  | cons c rest ih =>
      rw [readFlags]
      refine .ite (.ite .none (.some (List.suffix_refl _))) (.ite .none (.ite ?_ ?_))
      · exact (ih _ _ _).trans (List.suffix_cons c rest)
      · cases flags.set c on with
        | none => exact .none
        | some changed => exact (ih _ _ _).trans (List.suffix_cons c rest)

theorem readFlags_reader (flags : Flags) (on : Bool) (seen : List Char) :
    Reader closing (readFlags flags on seen) where
  leaves := leaves_readFlags flags on seen
  readsOn chars := by
    induction chars generalizing flags on seen with
    | nil => exact .of_none (leaves_readFlags flags on seen closing)
    | cons c rest ih =>
        rw [List.cons_append, readFlags, readFlags]
        refine .ite (.ite .failed (.read (.cons c rest))) (.ite .failed (.ite (ih _ _ _) ?_))
        cases flags.set c on with
        | none => exact .failed
        | some changed => exact ih _ _ _

/-- What flag letters end with: a closing parenthesis, unless there were none, or a colon. -/
def closeFlags (empty : Bool) (found : Flags × List Char) : Option (Opening × List Char) :=
  match found.2 with
  | ')' :: after => if empty then none else some (.switch found.1, after)
  | _ :: after => some (.group found.1 false none, after)
  | [] => none

/-- A group that begins with flag letters. -/
def flagGroup (flags : Flags) (chars : List Char) : Option (Opening × List Char) :=
  (readFlags flags true [] chars).bind (closeFlags (chars.head? == some ')'))

/-- A group that begins with a name. -/
def namedGroup (flags : Flags) (chars : List Char) : Option (Opening × List Char) :=
  (readName chars).map fun found => (.group flags true (some found.1), found.2)

/-- A group behind an angle bracket, where look-around could begin. -/
def angleGroup (flags : Flags) (chars : List Char) : Option (Opening × List Char) :=
  if chars.head? = some '=' then none
  else if chars.head? = some '!' then none
  else namedGroup flags chars

/-- A group behind its parenthesis and question mark. -/
def questionGroup (flags : Flags) (chars : List Char) : Option (Opening × List Char) :=
  match chars with
  | [] => none
  | c :: rest =>
      if c = '=' then none
      else if c = '!' then none
      else if c = '<' then angleGroup flags rest
      else if c = 'P' ∧ rest.head? = some '<' then namedGroup flags rest.tail
      else flagGroup flags (c :: rest)

/-- A group behind its parenthesis and what is to be skipped. -/
def openingFrom (flags : Flags) (chars : List Char) : Option (Opening × List Char) :=
  match chars with
  | '?' :: rest => questionGroup flags rest
  | rest => some (.group flags true none, rest)

theorem flagGroup_eq (flags : Flags) (chars : List Char) :
    (match readFlags flags true [] chars with
      | some (changed, ')' :: after) =>
          if chars.head? == some ')' then none else some (Opening.switch changed, after)
      | some (changed, _ :: after) => some (.group changed false none, after)
      | _ => none) = flagGroup flags chars := by
  unfold flagGroup
  cases readFlags flags true [] chars with
  | none => rfl
  | some found =>
      obtain ⟨changed, rest⟩ := found
      cases rest with
      | nil => rfl
      | cons c after =>
          by_cases hc : c = ')'
          · subst hc
            rfl
          · simp [closeFlags]

theorem readOpening_eq (flags : Flags) (chars : List Char) :
    readOpening flags chars = openingFrom flags (flags.skip chars) := by
  have hhead {chars : List Char} {c : Char} (hchars : ∀ rest, chars = c :: rest → False) :
      chars.head? ≠ some c := fun heq =>
    (List.head?_eq_some_iff.mp heq).elim hchars
  unfold readOpening
  generalize flags.skip chars = skipped
  split
  · rfl
  · rfl
  · rfl
  · rfl
  · rfl
  · next rest hequal hnot =>
      simp [openingFrom, questionGroup, angleGroup, hhead hequal, hhead hnot, namedGroup]
  · next rest hequal hnot _ _ hname hangle =>
      refine (flagGroup_eq flags rest).trans ?_
      cases rest with
      | nil => rfl
      | cons c more =>
          have hc := hhead hangle
          have hp : ¬(c = 'P' ∧ more.head? = some '<') := by
            rintro ⟨rfl, hmore⟩
            obtain ⟨rest, rfl⟩ := List.head?_eq_some_iff.mp hmore
            exact hname rest rfl
          have hd := hhead hequal
          have he := hhead hnot
          simp only [List.head?_cons, ne_eq, Option.some.injEq] at hc hd he
          simp [openingFrom, questionGroup, hc, hd, he, hp]
  · next hquestion => simp [openingFrom]

theorem leaves_closeFlags (empty : Bool) (found : Flags × List Char) :
    Leaves found.2.tail (closeFlags empty found) := by
  obtain ⟨flags, chars⟩ := found
  cases chars with
  | nil => exact .none
  | cons c rest =>
      by_cases hc : c = ')'
      · subst hc
        exact .ite .none (.some (List.suffix_refl rest))
      · simp only [closeFlags]
        exact .some (List.suffix_refl rest)

theorem closeFlags_followed (empty : Bool) (flags : Flags) {chars chars' : List Char}
    (hchars : Followed chars chars') :
    ReadsOn ['$'] (closeFlags empty (flags, chars)) (closeFlags empty (flags, chars')) := by
  cases hchars with
  | cons c rest =>
      by_cases hc : c = ')'
      · subst hc
        exact .ite .failed (.read (.append rest))
      · simp only [closeFlags]
        exact .read (.append rest)
  | nil => exact .of_none (leaves_closeFlags empty (flags, closing))
  | swallowed => exact .failed

theorem flagGroup_reader (flags : Flags) : Reader ['$'] (flagGroup flags) where
  leaves chars := (leaves_readFlags flags true [] chars).bind fun found =>
    (leaves_closeFlags _ found).trans (List.tail_suffix _)
  readsOn chars := by
    cases chars with
    | nil => exact .failed
    | cons c rest =>
        have hread := (readFlags_reader flags true []).readsOn (c :: rest)
        unfold flagGroup
        generalize readFlags flags true [] (c :: rest) = outcome at hread ⊢
        generalize readFlags flags true [] (c :: rest ++ closing) = outcome' at hread ⊢
        cases hread with
        | read hafter => exact closeFlags_followed _ _ hafter
        | failed => exact .failed
        | beyond hafter =>
            refine .of_none ((leaves_closeFlags _ _).trans ?_)
            rcases List.suffix_cons_iff.mp hafter with rfl | hafter
            · exact List.suffix_refl _
            · exact (List.tail_suffix _).trans hafter

theorem namedGroup_reader (flags : Flags) : Reader tail (namedGroup flags) :=
  (readName_reader tail).map fun name => Opening.group flags true (some name)

theorem angleGroup_reader (flags : Flags) : Reader tail (angleGroup flags) where
  leaves chars := .ite .none (.ite .none ((namedGroup_reader [] flags).leaves chars))
  readsOn chars := by
    cases chars with
    | nil => exact (namedGroup_reader tail flags).readsOn []
    | cons c rest => exact .ite .failed (.ite .failed ((namedGroup_reader tail flags).readsOn _))

theorem questionGroup_reader (flags : Flags) : Reader ['$'] (questionGroup flags) where
  leaves chars := by
    cases chars with
    | nil => exact .none
    | cons c rest =>
        refine .ite .none (.ite .none (.ite ?_ (.ite ?_ ((flagGroup_reader flags).leaves _))))
        · exact ((angleGroup_reader [] flags).leaves rest).trans (List.suffix_cons c rest)
        · exact ((namedGroup_reader [] flags).leaves _).trans
            ((List.tail_suffix rest).trans (List.suffix_cons c rest))
  readsOn chars := by
    cases chars with
    | nil => exact .failed
    | cons c rest =>
        have hhead : (rest ++ closing).head? = some '<' ↔ rest.head? = some '<' := by
          simpa using Bool.eq_iff_iff.mp
            ((Followed.append rest).head?_beq (show '<' ≠ ')' by decide))
        simp only [List.cons_append, questionGroup, hhead]
        refine .ite .failed (.ite .failed (.ite ((angleGroup_reader _ flags).readsOn rest) ?_))
        split
        · next hname =>
            obtain ⟨more, rfl⟩ := List.head?_eq_some_iff.mp hname.2
            exact (namedGroup_reader _ flags).readsOn more
        · exact (flagGroup_reader flags).readsOn (c :: rest)

theorem openingFrom_reader (flags : Flags) : Reader ['$'] (openingFrom flags) :=
  .onHead (c := '?') (questionGroup_reader flags) (.pure (.group flags true none)) (by decide)
    (fun _ => rfl) rfl fun c rest hc => by simp [openingFrom, hc]

theorem readOpening_reader (flags : Flags) : Reader ['$'] (readOpening flags) := by
  have heq : readOpening flags = fun chars => openingFrom flags (flags.skip chars) :=
    funext (readOpening_eq flags)
  rw [heq]
  exact (openingFrom_reader flags).skip flags

end CypherExpr.Regex
