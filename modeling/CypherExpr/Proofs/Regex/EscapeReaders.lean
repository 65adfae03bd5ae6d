import CypherExpr.Proofs.Regex.Readers

/-!
# Numbers and escapes before the closing

Code points, bounds of repetitions and escapes are read in front of the closing as they are
without it, with one exception among the escapes.  A pattern that ends in `\b` and an opening brace
has begun the name of a boundary; in front of the closing there is no name, and the brace is left to
be read as a repetition, which has no bounds.
-/

namespace CypherExpr.Regex

variable (tail : List Char)

/-! ## Numbers -/

theorem leaves_upTo (flags : Flags) (close : Char) (fuel : Nat) (chars : List Char) :
    Leaves chars (upTo flags close fuel chars) := by
  induction fuel generalizing chars with
  | zero => exact .none
  | succ fuel ih =>
      rw [upTo]
      refine Leaves.trans ?_ (flags.skip_suffix chars)
      cases flags.skip chars with
      | nil => exact .none
      | cons c rest =>
          exact .ite (.some (List.suffix_cons c rest))
            (((ih rest).map (c :: ·)).trans (List.suffix_cons c rest))

/-- A reader up to a mark needs the mark. -/
theorem upTo_eq_none {close : Char} {chars : List Char} (hclose : close ∉ chars) (flags : Flags)
    (fuel : Nat) : upTo flags close fuel chars = none := by
  induction fuel generalizing chars with
  | zero => rfl
  | succ fuel ih =>
      have hskip : close ∉ flags.skip chars := fun hmem =>
        hclose ((flags.skip_suffix chars).subset hmem)
      rw [upTo]
      cases hchars : flags.skip chars with
      | nil => rfl
      | cons c rest =>
          rw [hchars, List.mem_cons, not_or] at hskip
          simp [ih hskip.2, Ne.symm hskip.1]

theorem upTo_readsOn {close : Char} (hclose : close ∉ closing) (flags : Flags)
    {chars chars' : List Char} (hchars : Followed chars chars') {fuel fuel' : Nat}
    (hfuel : chars.length < fuel) (hfuel' : chars'.length < fuel') :
    ReadsOn tail (upTo flags close fuel chars) (upTo flags close fuel' chars') := by
  induction fuel generalizing chars chars' fuel' with
  | zero => exact absurd hfuel (Nat.not_lt_zero _)
  | succ fuel ih =>
      obtain ⟨fuel', rfl⟩ := Nat.exists_eq_add_one_of_ne_zero (Nat.ne_zero_of_lt hfuel')
      have hlength := (flags.skip_suffix chars).length_le
      have hlength' := (flags.skip_suffix chars').length_le
      rw [upTo, upTo]
      have hskip := hchars.skip flags
      generalize flags.skip chars = skipped, flags.skip chars' = skipped' at hskip hlength hlength'
      cases hskip with
      | cons c rest =>
          rw [List.length_cons] at hlength hlength'
          have hrest := ih (.append rest) (Nat.lt_of_lt_of_le hlength (Nat.le_of_lt_succ hfuel))
            (Nat.lt_of_lt_of_le hlength' (Nat.le_of_lt_succ hfuel'))
          exact .ite (.read (.append rest)) (hrest.map (c :: ·))
      | nil =>
          rw [closing, List.mem_cons, not_or] at hclose
          simpa [closing, upTo_eq_none hclose.2, Ne.symm hclose.1] using ReadsOn.failed
      | swallowed => exact .failed

theorem upTo_reader {close : Char} (hclose : close ∉ closing) (flags : Flags) :
    Reader tail fun chars => upTo flags close (chars.length + 1) chars :=
  ⟨fun chars => leaves_upTo flags close _ chars, fun chars =>
    upTo_readsOn _ hclose flags (.append chars) (Nat.lt_succ_self _) (Nat.lt_succ_self _)⟩

theorem exactly_reader (flags : Flags) (count : Nat) : Reader ['$'] (exactly flags count) := by
  induction count with
  | zero => exact .pure []
  | succ count ih =>
      refine .uncons (by cases count <;> rfl) fun c => ?_
      cases count with
      | zero => exact .pure [c]
      | succ count => exact (ih.skip flags).map (c :: ·)

/-- The characters that give a code point. -/
def codeDigits (flags : Flags) (digits : Nat) (chars : List Char) :
    Option (List Char × List Char) :=
  match chars with
  | '\x7b' :: more => upTo flags '\x7d' (more.length + 1) more
  | more => exactly flags digits more

/-- The character that they give. -/
def codeChar (flags : Flags) (body rest : List Char) : Option (Char × List Char) :=
  if body.isEmpty then none
  else (hexNumber body).bind fun point => (charOfPoint point).bind fun c =>
    some (c, flags.skip rest)

theorem readCodePoint_eq (flags : Flags) (digits : Nat) :
    readCodePoint flags digits = fun chars =>
      (codeDigits flags digits (flags.skip chars)).bind fun body =>
        codeChar flags body.1 body.2 := by
  funext chars
  simp only [readCodePoint, Option.bind_eq_bind]
  cases flags.skip chars with
  | nil => rfl
  | cons c rest =>
      by_cases hc : c = '\x7b'
      · subst hc
        rfl
      · simp [codeDigits, codeChar, hc]

theorem codeDigits_reader (flags : Flags) (digits : Nat) :
    Reader ['$'] (codeDigits flags digits) :=
  .onHead (c := '\x7b') (upTo_reader _ (by decide) flags) (exactly_reader flags digits) (by decide)
    (fun _ => rfl) rfl fun c rest hc => by simp [codeDigits, hc]

theorem readCodePoint_reader (flags : Flags) (digits : Nat) :
    Reader ['$'] (readCodePoint flags digits) := by
  rw [readCodePoint_eq]
  exact ((codeDigits_reader flags digits).skip flags).bind fun body =>
    .ite (body.isEmpty = true) .fail (.guard (hexNumber body) fun point =>
      .guard (charOfPoint point) fun c => .skipAfter flags c)

theorem readCount_reader (flags : Flags) : Reader tail (readCount flags) where
  leaves chars := by
    have hsuffix : flags.skip ((takeDigits flags (chars.length + 1)
        (chars.dropWhile Text.isBlank)).2.dropWhile Text.isBlank) <:+ chars := by
      rw [takeDigits_eq]
      exact (flags.skip_suffix _).trans ((List.dropWhile_suffix _).trans
        ((takeRun_suffix _ _ _ _).trans (List.dropWhile_suffix _)))
    exact .ite (.some hsuffix) (.ite (.some hsuffix) .none)
  readsOn chars := by
    have hlength := (List.dropWhile_suffix (l := chars) Text.isBlank).length_le
    have hlength' := (List.dropWhile_suffix (l := chars ++ closing) Text.isBlank).length_le
    obtain ⟨hdigits, hrest⟩ := takeRun_followed Char.isDigit rfl flags
      (Followed.append chars).dropBlanks (Nat.lt_succ_of_le hlength) (Nat.lt_succ_of_le hlength')
    simp only [readCount, takeDigits_eq, hdigits]
    have hafter := hrest.dropBlanks.skip flags
    exact .ite (.read hafter) (.ite (.read hafter) .failed)

/-- The closing brace of a repetition, behind its bounds. -/
def closeBounds (least most : Nat) (chars : List Char) : Option ((Nat × Option Nat) × List Char) :=
  match chars with
  | '\x7d' :: after => if least ≤ most then some ((least, some most), after) else none
  | _ => none

/-- The upper bound of a repetition, where there is one. -/
def readMost (flags : Flags) (least : Nat) (chars : List Char) :
    Option ((Nat × Option Nat) × List Char) :=
  (readCount flags chars).bind fun count => count.1.bind fun most =>
    closeBounds least most count.2

/-- What follows the comma of a repetition. -/
def upperBound (flags : Flags) (least : Nat) (chars : List Char) :
    Option ((Nat × Option Nat) × List Char) :=
  match chars with
  | '\x7d' :: after => some ((least, none), after)
  | more => readMost flags least more

/-- What follows the lower bound of a repetition. -/
def boundsFrom (flags : Flags) (least : Nat) (chars : List Char) :
    Option ((Nat × Option Nat) × List Char) :=
  match chars with
  | ',' :: more => upperBound flags least (flags.skip more)
  | chars => closeBounds least least chars

theorem readMost_nil (flags : Flags) (least : Nat) : readMost flags least [] = none := by
  simp [readMost, readCount, takeDigits]

theorem readBounds_eq (flags : Flags) :
    readBounds flags = fun chars => (readCount flags (flags.skip chars)).bind fun count =>
      count.1.bind fun least => boundsFrom flags least count.2 := by
  funext chars
  simp only [readBounds, Option.bind_eq_bind]
  congr 1
  funext count
  congr 1
  funext least
  cases count.2 with
  | nil => rfl
  | cons c rest =>
      by_cases hcomma : c = ','
      · subst hcomma
        simp only [boundsFrom]
        cases flags.skip rest with
        | nil => exact (readMost_nil flags least).symm
        | cons d more =>
            by_cases hbrace : d = '\x7d'
            · subst hbrace
              rfl
            · simp only [upperBound, List.cons.injEq, hbrace, false_and, imp_self, implies_true]
              rfl
      · by_cases hbrace : c = '\x7d'
        · subst hbrace
          simp [boundsFrom, closeBounds]
        · simp [boundsFrom, closeBounds, hcomma, hbrace]

theorem closeBounds_reader (least most : Nat) : Reader tail (closeBounds least most) :=
  .onHead (c := '\x7d') (.ite (least ≤ most) (.pure (least, some most)) .fail) .fail (by decide)
    (fun _ => rfl) rfl fun c rest hc => by simp [closeBounds, hc]

theorem readMost_reader (flags : Flags) (least : Nat) : Reader tail (readMost flags least) :=
  (readCount_reader _ flags).bind fun count => .guard count fun most =>
    closeBounds_reader _ least most

theorem upperBound_reader (flags : Flags) (least : Nat) : Reader tail (upperBound flags least) :=
  .onHead (c := '\x7d') (.pure (least, none)) (readMost_reader _ flags least) (by decide)
    (fun _ => rfl) rfl fun c rest hc => by simp [upperBound, hc]

theorem boundsFrom_reader (flags : Flags) (least : Nat) : Reader tail (boundsFrom flags least) :=
  .onHead (c := ',') ((upperBound_reader _ flags least).skip flags)
    (closeBounds_reader _ least least)
    (by decide) (fun _ => rfl) rfl fun c rest hc => by simp [boundsFrom, hc]

theorem readBounds_reader (flags : Flags) : Reader tail (readBounds flags) := by
  rw [readBounds_eq]
  exact ((readCount_reader _ flags).skip flags).bind fun count => .guard count fun least =>
    boundsFrom_reader _ flags least

/-- Where the pattern ends, there are no bounds. -/
theorem readBounds_eq_none {flags : Flags} {chars : List Char}
    (hchars : Followed [] (flags.skip chars)) : readBounds flags chars = none := by
  simp only [readBounds_eq]
  generalize flags.skip chars = skipped at hchars
  have hcount : ∃ rest, readCount flags skipped = some (none, rest) := by
    cases hchars with
    | nil =>
        have hdigits (fuel : Nat) : takeDigits flags fuel closing = ([], closing) := by
          cases fuel <;> rfl
        have hblanks : closing.dropWhile Text.isBlank = closing := rfl
        exact ⟨closing, by simp [readCount, hdigits, hblanks]⟩
    | swallowed => exact ⟨[], by simp [readCount, takeDigits]⟩
  obtain ⟨rest, hrest⟩ := hcount
  rw [hrest]
  rfl

/-! ## Escapes -/

/-- The name of a property, with or without braces. -/
def propertyName (flags : Flags) (chars : List Char) : Option (CharSet × List Char) :=
  match chars with
  | [] => none
  | c :: more =>
      if c = '\\' then none
      else if c = '\x7b' then
        (upTo flags '\x7d' (more.length + 1) more).bind fun body =>
          (propertySet body.1).map fun set => (set, body.2)
      else
        (categorySet (looseName (String.singleton c))).map fun set => (set, flags.skip more)

theorem readProperty_eq (flags : Flags) (negated : Bool) :
    readProperty flags negated = fun chars =>
      (propertyName flags (flags.skip chars)).bind fun found =>
        if flags.unicode then some (flags.finish negated found.1, found.2) else none := by
  funext chars
  simp only [readProperty, Option.bind_eq_bind]
  split
  · next hnil => rw [hnil]; rfl
  · next rest hrest => rw [hrest]; rfl
  · next more hmore =>
      rw [hmore]
      exact (Option.bind_assoc _ _ _).symm
  · next c more hbackslash hbrace hmore =>
      simp only [hmore, propertyName, if_neg hbackslash, if_neg hbrace]

theorem propertyName_reader (flags : Flags) : Reader ['$'] (propertyName flags) :=
  .uncons rfl fun c => .ite (c = '\\') .fail (.ite (c = '\x7b')
    ((upTo_reader _ (by decide) flags).bind fun body => .optional (propertySet body) id)
    ((Reader.optional (categorySet (looseName (String.singleton c))) id).skip flags))

theorem readProperty_reader (flags : Flags) (negated : Bool) :
    Reader ['$'] (readProperty flags negated) := by
  rw [readProperty_eq]
  exact ((propertyName_reader flags).skip flags).bind fun set =>
    .ite (flags.unicode = true) (.pure (flags.finish negated set)) .fail

/-- The word boundary without a name. -/
def plainBoundary (flags : Flags) : Look :=
  if flags.unicode then .wordBoundary else .asciiWordBoundary

/-- The word boundary of a name. -/
def boundaryOfName (flags : Flags) (name : List Char) : Option Look :=
  let pick (unicode ascii : Look) := if flags.unicode then unicode else ascii
  match String.ofList name with
  | "start" => some (pick .wordStart .asciiWordStart)
  | "end" => some (pick .wordEnd .asciiWordEnd)
  | "start-half" => some (pick .wordStartHalf .asciiWordStartHalf)
  | "end-half" => some (pick .wordEndHalf .asciiWordEndHalf)
  | _ => none

/-- The closing brace behind the name of a word boundary. -/
def closeBoundary (found : Option Look) (chars : List Char) : Option (Look × List Char) :=
  match chars with
  | '\x7d' :: after => found.map fun boundary => (boundary, after)
  | _ => none

/-- A word boundary by its name. -/
def namedBoundary (flags : Flags) (chars : List Char) : Option (Look × List Char) :=
  let run := takeRun isBoundaryChar flags (chars.length + 1) chars
  closeBoundary (boundaryOfName flags run.1) run.2

theorem readBoundary_of_ne {flags : Flags} {c : Char} (hc : c ≠ '\x7b') (rest : List Char) :
    readBoundary flags (c :: rest) = some (plainBoundary flags, c :: rest) := by
  simp [readBoundary, hc]
  rfl

theorem readBoundary_brace (flags : Flags) (more : List Char) :
    readBoundary flags ('\x7b' :: more) =
      (flags.skip more).head?.bind fun c =>
        if isBoundaryChar c then namedBoundary flags (flags.skip more)
        else some (plainBoundary flags, '\x7b' :: more) := by
  simp only [readBoundary, takeBoundaryName_eq]
  cases flags.skip more with
  | nil => rfl
  | cons c rest =>
      cases hc : isBoundaryChar c with
      | false => simp [hc, plainBoundary]
      | true =>
          simp only [hc, Bool.not_true, Bool.false_eq_true, if_false, if_true, List.head?_cons,
            Option.bind_some]
          rfl

theorem closeBoundary_reader (found : Option Look) : Reader tail (closeBoundary found) :=
  .onHead (c := '\x7d') (.optional found id) .fail (by decide) (fun _ => rfl) rfl
    fun c rest hc => by simp [closeBoundary, hc]

theorem namedBoundary_reader (flags : Flags) : Reader tail (namedBoundary flags) where
  leaves chars :=
    ((closeBoundary_reader tail _).leaves _).trans (takeRun_suffix isBoundaryChar flags _ chars)
  readsOn chars := by
    obtain ⟨hname, hafter⟩ := takeRun_followed isBoundaryChar rfl flags
      (Followed.append chars) (Nat.lt_succ_self _) (Nat.lt_succ_self _)
    simp only [namedBoundary, hname]
    exact (closeBoundary_reader _ _).followed hafter

theorem leaves_readBoundary (flags : Flags) (chars : List Char) :
    Leaves chars (readBoundary flags chars) := by
  cases chars with
  | nil => exact .some (List.suffix_refl [])
  | cons c rest =>
      by_cases hbrace : c = '\x7b'
      · subst hbrace
        rw [readBoundary_brace]
        have hnamed := ((namedBoundary_reader [] flags).leaves (flags.skip rest)).trans
          ((flags.skip_suffix rest).trans (List.suffix_cons '\x7b' rest))
        exact .guard fun d => .ite hnamed (.some (List.suffix_refl _))
      · rw [readBoundary_of_ne hbrace]
        exact .some (List.suffix_refl _)

/-- A backslash has been read, and the pattern ends in `b` and an opening brace. -/
def EndsAtBrace (flags : Flags) (chars : List Char) : Prop :=
  ∃ more, chars = 'b' :: '\x7b' :: more ∧ flags.skip more = []

theorem readBoundary_readsOn {flags : Flags} {chars : List Char}
    (hchars : ¬EndsAtBrace flags ('b' :: chars)) :
    ReadsOn tail (readBoundary flags chars) (readBoundary flags (chars ++ closing)) := by
  cases chars with
  | nil => exact .read .nil
  | cons c rest =>
      by_cases hbrace : c = '\x7b'
      · subst hbrace
        rw [List.cons_append, readBoundary_brace, readBoundary_brace]
        have hskip := (Followed.append rest).skip flags
        have hmore : flags.skip rest ≠ [] := fun hnil => hchars ⟨rest, rfl, hnil⟩
        generalize flags.skip rest = skipped, flags.skip (rest ++ closing) = skipped' at hskip hmore
        have hnamed := (namedBoundary_reader tail flags).followed hskip
        cases hskip with
        | cons d more => exact .ite hnamed (.read (.cons '\x7b' rest))
        | nil => exact absurd rfl hmore
        | swallowed => exact absurd rfl hmore
      · rw [List.cons_append, readBoundary_of_ne hbrace, readBoundary_of_ne hbrace]
        exact .read (.cons c rest)

theorem readEscape_b (flags : Flags) (rest : List Char) :
    readEscape flags ('b' :: rest) =
      (readBoundary flags rest).map fun found => (.look found.1, found.2) := rfl

/-- A backslash, `b` and an opening brace at the end of a pattern are an unfinished boundary name.
With the closing behind it the brace is left unread. -/
theorem readEscape_of_endsAtBrace {flags : Flags} {chars : List Char}
    (hchars : EndsAtBrace flags chars) :
    readEscape flags chars = none ∧ ∀ result, readEscape flags (chars ++ closing) = some result →
      ∃ boundary more, chars = 'b' :: '\x7b' :: more ∧
        result = (.look boundary, '\x7b' :: (more ++ closing)) := by
  obtain ⟨more, rfl, hskip⟩ := hchars
  constructor
  · simp [readEscape_b, readBoundary_brace, hskip]
  · intro result hresult
    have hfollowed := (Followed.append more).skip flags
    simp only [List.cons_append, readEscape_b, readBoundary_brace] at hresult
    rw [hskip] at hfollowed
    generalize flags.skip (more ++ closing) = skipped at hfollowed hresult
    cases hfollowed with
    | nil =>
        obtain rfl : (.look (plainBoundary flags), '\x7b' :: (more ++ closing)) = result := by
          simpa [closing, show isBoundaryChar ')' = false from rfl] using hresult
        exact ⟨_, more, rfl, rfl⟩
    | swallowed => simp at hresult

theorem leaves_readEscape (flags : Flags) (chars : List Char) :
    Leaves chars.tail (readEscape flags chars) := by
  cases chars with
  | nil => exact .none
  | cons c rest =>
      unfold readEscape
      simp only [List.tail_cons]
      split
      · exact ((readCodePoint_reader flags 2).leaves rest).bind fun _ =>
          .ite (.some (List.suffix_refl _)) .none
      · exact ((readCodePoint_reader flags 4).leaves rest).map Atom.literal
      · exact ((readCodePoint_reader flags 8).leaves rest).map Atom.literal
      · exact ((readProperty_reader flags false).leaves rest).map Atom.set
      · exact ((readProperty_reader flags true).leaves rest).map Atom.set
      any_goals exact .some (List.suffix_refl rest)
      · exact (leaves_readBoundary flags rest).map Atom.look
      · cases letterClass flags c with
        | some set => exact (Reader.optional (flags.screen set) Atom.set : Reader [] _).leaves rest
        | none => exact .ite (.some (List.suffix_refl rest)) .none

theorem readEscape_readsOn {flags : Flags} {chars : List Char}
    (hchars : ¬EndsAtBrace flags chars) :
    ReadsOn ['$'] (readEscape flags chars) (readEscape flags (chars ++ closing)) := by
  cases chars with
  | nil => exact .of_none (leaves_readEscape flags closing)
  | cons c rest =>
      unfold readEscape
      simp only [List.cons_append]
      split
      · have hbrace := ((Followed.append rest).skip flags).head?_beq (show '\x7b' ≠ ')' by decide)
        refine ((readCodePoint_reader flags 2).readsOn rest).bind
          (fun value after after' hafter => ?_) fun _ => .ite (.some (List.suffix_refl _)) .none
        rw [hbrace]
        exact .ite (.read hafter) .failed
      · exact ((readCodePoint_reader flags 4).readsOn rest).map Atom.literal
      · exact ((readCodePoint_reader flags 8).readsOn rest).map Atom.literal
      · exact ((readProperty_reader flags false).readsOn rest).map Atom.set
      · exact ((readProperty_reader flags true).readsOn rest).map Atom.set
      any_goals exact .read (.append rest)
      · exact (readBoundary_readsOn _ hchars).map Atom.look
      · cases letterClass flags c with
        | some set => exact (Reader.optional (flags.screen set) Atom.set).readsOn rest
        | none => exact .ite (.read (.append rest)) .failed

end CypherExpr.Regex
