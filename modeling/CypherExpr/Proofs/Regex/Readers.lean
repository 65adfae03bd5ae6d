import CypherExpr.Regex.Lexer

/-!
# Readers and what stands behind a pattern

A compiled pattern is followed by what closes the group around it.  A reader that succeeds on the
rest of a pattern reads the same with the closing behind it, and leaves the closing unread; only a
comment at the very end of the pattern takes the closing in.  A reader that fails on the pattern
alone either fails with the closing behind it too, or it has read into the closing.
-/

namespace CypherExpr.Regex

/-- What stands behind a pattern when it is compiled. -/
def closing : List Char := [')', '$']

/-- Characters left to read of a pattern, and what is left when the closing stands behind it. -/
inductive Followed : List Char → List Char → Prop
  | cons (c : Char) (rest : List Char) : Followed (c :: rest) (c :: (rest ++ closing))
  | nil : Followed [] closing
  /-- A comment at the end of the pattern goes on through the closing. -/
  | swallowed : Followed [] []

theorem Followed.append (chars : List Char) : Followed chars (chars ++ closing) := by
  cases chars with
  | nil => exact .nil
  | cons c rest => exact .cons c rest

/-- What a reader leaves is an end of what it was given. -/
def Leaves {α : Type} (chars : List Char) (outcome : Option (α × List Char)) : Prop :=
  ∀ result, outcome = some result → result.2 <:+ chars

/-- The outcomes of a reader on the rest of a pattern and with the closing behind it.  A reader that
fails without the closing may leave an end of `tail` when it reads into it. -/
inductive ReadsOn {α : Type} (tail : List Char) :
    Option (α × List Char) → Option (α × List Char) → Prop
  | read {value : α} {rest rest' : List Char} (hrest : Followed rest rest') :
    ReadsOn tail (some (value, rest)) (some (value, rest'))
  | failed : ReadsOn tail none none
  | beyond {value : α} {rest' : List Char} (hrest : rest' <:+ tail) :
    ReadsOn tail none (some (value, rest'))

/-- A reader that is not misled by the closing behind a pattern. -/
structure Reader {α : Type} (tail : List Char) (read : List Char → Option (α × List Char)) :
    Prop where
  leaves : ∀ chars, Leaves chars (read chars)
  readsOn : ∀ chars, ReadsOn tail (read chars) (read (chars ++ closing))

section Combinators

variable {α β γ : Type} {chars more tail : List Char}

theorem Leaves.none : Leaves chars (none : Option (α × List Char)) := by
  simp [Leaves]

theorem Leaves.some {value : α} {rest : List Char} (hrest : rest <:+ chars) :
    Leaves chars (some (value, rest)) := by
  simpa [Leaves] using hrest

theorem Leaves.trans {outcome : Option (α × List Char)} (houtcome : Leaves more outcome)
    (hmore : more <:+ chars) : Leaves chars outcome :=
  fun result hresult => (houtcome result hresult).trans hmore

theorem Leaves.map {outcome : Option (α × List Char)} (houtcome : Leaves chars outcome)
    (convert : α → β) : Leaves chars (outcome.map fun result => (convert result.1, result.2)) := by
  intro result hresult
  obtain ⟨before, hbefore, rfl⟩ := Option.map_eq_some_iff.mp hresult
  exact houtcome before hbefore

theorem Leaves.bind {outcome : Option (α × List Char)} (houtcome : Leaves chars outcome)
    {next : α × List Char → Option (β × List Char)}
    (hnext : ∀ result, Leaves result.2 (next result)) : Leaves chars (outcome.bind next) := by
  intro result hresult
  obtain ⟨before, hbefore, hafter⟩ := Option.bind_eq_some_iff.mp hresult
  exact (hnext before result hafter).trans (houtcome before hbefore)

theorem Leaves.guard {found : Option γ} {next : γ → Option (α × List Char)}
    (hnext : ∀ value, Leaves chars (next value)) : Leaves chars (found.bind next) := by
  intro result hresult
  obtain ⟨value, -, hafter⟩ := Option.bind_eq_some_iff.mp hresult
  exact hnext value result hafter

theorem Leaves.ite {condition : Prop} [Decidable condition] {left right : Option (α × List Char)}
    (hleft : Leaves chars left) (hright : Leaves chars right) :
    Leaves chars (if condition then left else right) := by
  split
  · exact hleft
  · exact hright

theorem ReadsOn.of_none {outcome : Option (α × List Char)} (houtcome : Leaves tail outcome) :
    ReadsOn tail none outcome := by
  cases outcome with
  | none => exact .failed
  | some result => exact .beyond (houtcome result rfl)

theorem ReadsOn.weaken {outcome outcome' : Option (α × List Char)}
    (houtcome : ReadsOn more outcome outcome') (hmore : more <:+ tail) :
    ReadsOn tail outcome outcome' := by
  cases houtcome with
  | read hrest => exact .read hrest
  | failed => exact .failed
  | beyond hrest => exact .beyond (hrest.trans hmore)

theorem ReadsOn.map {outcome outcome' : Option (α × List Char)}
    (houtcome : ReadsOn tail outcome outcome') (convert : α → β) :
    ReadsOn tail (outcome.map fun result => (convert result.1, result.2))
      (outcome'.map fun result => (convert result.1, result.2)) := by
  cases houtcome with
  | read hrest => exact .read hrest
  | failed => exact .failed
  | beyond hrest => exact .beyond hrest

theorem ReadsOn.bind {outcome outcome' : Option (α × List Char)}
    (houtcome : ReadsOn tail outcome outcome')
    {next next' : α × List Char → Option (β × List Char)}
    (hread : ∀ value rest rest', Followed rest rest' →
      ReadsOn tail (next (value, rest)) (next' (value, rest')))
    (hbeyond : ∀ result, Leaves result.2 (next' result)) :
    ReadsOn tail (outcome.bind next) (outcome'.bind next') := by
  cases houtcome with
  | read hrest => exact hread _ _ _ hrest
  | failed => exact .failed
  | beyond hrest => exact .of_none ((hbeyond _).trans hrest)

theorem ReadsOn.guard {found : Option γ} {next next' : γ → Option (α × List Char)}
    (hnext : ∀ value, ReadsOn tail (next value) (next' value)) :
    ReadsOn tail (found.bind next) (found.bind next') := by
  cases found with
  | none => exact .failed
  | some value => exact hnext value

theorem ReadsOn.ite {condition : Prop} [Decidable condition]
    {left left' right right' : Option (α × List Char)} (hleft : ReadsOn tail left left')
    (hright : ReadsOn tail right right') :
    ReadsOn tail (if condition then left else right) (if condition then left' else right') := by
  split
  · exact hleft
  · exact hright

namespace Reader

variable {read : List Char → Option (α × List Char)}

theorem followed (hread : Reader tail read) {chars' : List Char} (hchars : Followed chars chars') :
    ReadsOn tail (read chars) (read chars') := by
  cases hchars with
  | cons c rest => exact hread.readsOn (c :: rest)
  | nil => exact hread.readsOn []
  | swallowed =>
      cases hempty : read [] with
      | none => exact .failed
      | some result =>
          obtain ⟨value, rest⟩ := result
          obtain rfl : rest = [] := List.eq_nil_of_suffix_nil (hread.leaves [] _ hempty)
          exact .read .swallowed

/-- A reader that looks at one character first. -/
theorem of_cons (hnil : Leaves [] (read [])) (hclosing : ReadsOn tail (read []) (read closing))
    (hcons : ∀ c, Reader tail fun rest => read (c :: rest)) : Reader tail read where
  leaves chars := by
    cases chars with
    | nil => exact hnil
    | cons c rest => exact ((hcons c).leaves rest).trans (List.suffix_cons c rest)
  readsOn chars := by
    cases chars with
    | nil => exact hclosing
    | cons c rest => exact (hcons c).readsOn rest

/-- A reader that needs a character. -/
theorem uncons (hnil : read [] = none) (hcons : ∀ c, Reader ['$'] fun rest => read (c :: rest)) :
    Reader ['$'] read :=
  of_cons (hnil ▸ .none) (hnil ▸ .of_none ((hcons ')').leaves ['$'])) hcons

/-- A reader that goes one way after a certain character and another way without it. -/
theorem onHead {first other : List Char → Option (α × List Char)} (hfirst : Reader tail first)
    (hother : Reader tail other) {c : Char} (hc : c ≠ ')')
    (hread : ∀ rest, read (c :: rest) = first rest) (hnil : read [] = other [])
    (hcons : ∀ d rest, d ≠ c → read (d :: rest) = other (d :: rest)) : Reader tail read where
  leaves chars := by
    cases chars with
    | nil => exact hnil ▸ hother.leaves []
    | cons d rest =>
        by_cases hd : d = c
        · subst hd
          rw [hread]
          exact (hfirst.leaves rest).trans (List.suffix_cons d rest)
        · rw [hcons d rest hd]
          exact hother.leaves _
  readsOn chars := by
    cases chars with
    | nil =>
        have hclosing : read closing = other closing := hcons ')' ['$'] hc.symm
        rw [List.nil_append, hnil, hclosing]
        exact hother.readsOn []
    | cons d rest =>
        by_cases hd : d = c
        · subst hd
          rw [List.cons_append, hread, hread]
          exact hfirst.readsOn rest
        · rw [List.cons_append, hcons d _ hd, hcons d _ hd]
          exact hother.readsOn (d :: rest)

theorem fail : Reader tail fun _ => (none : Option (α × List Char)) :=
  ⟨fun _ => .none, fun _ => .failed⟩

theorem pure (value : α) : Reader tail fun chars => some (value, chars) :=
  ⟨fun chars => .some (List.suffix_refl chars), fun chars => .read (.append chars)⟩

theorem guard (found : Option γ) {next : γ → List Char → Option (α × List Char)}
    (hnext : ∀ value, Reader tail (next value)) :
    Reader tail fun chars => found.bind fun value => next value chars :=
  ⟨fun chars => .guard fun value => (hnext value).leaves chars,
    fun chars => .guard fun value => (hnext value).readsOn chars⟩

theorem optional (found : Option γ) (convert : γ → α) :
    Reader tail fun chars => found.map fun value => (convert value, chars) := by
  cases found with
  | none => exact fail
  | some value => exact pure (convert value)

theorem ite (condition : Prop) [Decidable condition] {other : List Char → Option (α × List Char)}
    (hread : Reader tail read) (hother : Reader tail other) :
    Reader tail fun chars => if condition then read chars else other chars :=
  ⟨fun chars => .ite (hread.leaves chars) (hother.leaves chars),
    fun chars => .ite (hread.readsOn chars) (hother.readsOn chars)⟩

theorem map (hread : Reader tail read) (convert : α → β) :
    Reader tail fun chars => (read chars).map fun result => (convert result.1, result.2) :=
  ⟨fun chars => (hread.leaves chars).map convert, fun chars => (hread.readsOn chars).map convert⟩

theorem bind (hread : Reader tail read) {next : α → List Char → Option (β × List Char)}
    (hnext : ∀ value, Reader tail (next value)) :
    Reader tail fun chars => (read chars).bind fun result => next result.1 result.2 :=
  ⟨fun chars => (hread.leaves chars).bind fun result => (hnext result.1).leaves result.2,
    fun chars => (hread.readsOn chars).bind
      (fun value _ _ hrest => (hnext value).followed hrest)
      fun result => (hnext result.1).leaves result.2⟩

theorem weaken {more : List Char} (hread : Reader more read) (hmore : more <:+ tail) :
    Reader tail read :=
  ⟨hread.leaves, fun chars => (hread.readsOn chars).weaken hmore⟩

end Reader

end Combinators

/-! ## Blanks and comments -/

theorem skipNotes_suffix (inComment : Bool) (chars : List Char) :
    skipNotes inComment chars <:+ chars := by
  induction chars generalizing inComment with
  | nil => exact List.suffix_refl []
  | cons c rest ih =>
      unfold skipNotes
      split
      · exact (ih _).trans (List.suffix_cons c rest)
      · split
        · exact (ih _).trans (List.suffix_cons c rest)
        · split
          · exact (ih _).trans (List.suffix_cons c rest)
          · exact List.suffix_refl _

theorem skipNotes_followed (inComment : Bool) (chars : List Char) :
    Followed (skipNotes inComment chars) (skipNotes inComment (chars ++ closing)) := by
  induction chars generalizing inComment with
  | nil =>
      cases inComment with
      | false => exact .nil
      | true => exact .swallowed
  | cons c rest ih =>
      rw [List.cons_append, skipNotes, skipNotes]
      split
      · exact ih _
      · split
        · exact ih _
        · split
          · exact ih _
          · exact .cons c rest

namespace Flags

variable (flags : Flags)

theorem skip_suffix (chars : List Char) : flags.skip chars <:+ chars := by
  unfold skip
  split
  · exact skipNotes_suffix false chars
  · exact List.suffix_refl chars

@[simp]
theorem skip_nil : flags.skip [] = [] :=
  List.eq_nil_of_suffix_nil (flags.skip_suffix [])

@[simp]
theorem skip_closing : flags.skip closing = closing := by
  unfold skip
  split <;> rfl

end Flags

theorem Followed.skip {chars chars' : List Char} (hchars : Followed chars chars') (flags : Flags) :
    Followed (flags.skip chars) (flags.skip chars') := by
  have happend (chars : List Char) :
      Followed (flags.skip chars) (flags.skip (chars ++ closing)) := by
    unfold Flags.skip
    split
    · exact skipNotes_followed false chars
    · exact .append chars
  cases hchars with
  | cons c rest => exact happend (c :: rest)
  | nil => exact happend []
  | swallowed => rw [Flags.skip_nil]; exact .swallowed

theorem Reader.skip {α : Type} {tail : List Char} {read : List Char → Option (α × List Char)}
    (hread : Reader tail read) (flags : Flags) : Reader tail fun chars => read (flags.skip chars) :=
  ⟨fun chars => (hread.leaves _).trans (flags.skip_suffix chars),
    fun chars => hread.followed ((Followed.append chars).skip flags)⟩

/-- A value, and what is to be skipped behind it. -/
theorem Reader.skipAfter {α : Type} {tail : List Char} (flags : Flags) (value : α) :
    Reader tail fun chars => some (value, flags.skip chars) :=
  (Reader.pure value).skip flags

theorem Followed.dropBlanks {chars chars' : List Char} (hchars : Followed chars chars') :
    Followed (chars.dropWhile Text.isBlank) (chars'.dropWhile Text.isBlank) := by
  have happend (chars : List Char) : Followed (chars.dropWhile Text.isBlank)
      ((chars ++ closing).dropWhile Text.isBlank) := by
    induction chars with
    | nil => exact .nil
    | cons c rest ih =>
        rw [List.cons_append, List.dropWhile_cons, List.dropWhile_cons]
        split
        · exact ih
        · exact .cons c rest
  cases hchars with
  | cons c rest => exact happend (c :: rest)
  | nil => exact happend []
  | swallowed => exact .swallowed

/-- The next character is the same, or there is none in the pattern and it is the closing
parenthesis. -/
theorem Followed.head?_beq {chars chars' : List Char} (hchars : Followed chars chars') {c : Char}
    (hc : c ≠ ')') : (chars'.head? == some c) = (chars.head? == some c) := by
  cases hchars with
  | cons d rest => rfl
  | nil => simpa [closing] using hc.symm
  | swallowed => rfl

theorem Followed.peek_beq {chars chars' : List Char} (hchars : Followed chars chars')
    (flags : Flags) {c : Char} (hc : c ≠ ')') :
    (flags.peek chars' == some c) = (flags.peek chars == some c) := by
  unfold Flags.peek
  split
  · have hblanks := hchars.dropBlanks
    generalize chars.dropWhile Text.isBlank = rest, chars'.dropWhile Text.isBlank = rest' at hblanks
    cases hblanks with
    | cons d rest =>
        by_cases hd : d = '#'
        · subst hd
          exact (Followed.append rest).dropBlanks.head?_beq hc
        · simp [hd]
    | nil => simpa [closing] using hc.symm
    | swallowed => rfl
  · exact hchars.head?_beq hc

/-! ## Runs of characters -/

/-- The characters of a kind, with what is to be skipped between them. -/
def takeRun (kind : Char → Bool) (flags : Flags) : Nat → List Char → List Char × List Char
  | 0, chars => ([], chars)
  | fuel + 1, chars =>
      match chars with
      | c :: rest =>
          if kind c then
            let (run, after) := takeRun kind flags fuel (flags.skip rest)
            (c :: run, after)
          else ([], chars)
      | [] => ([], [])

theorem takeDigits_eq (flags : Flags) (fuel : Nat) (chars : List Char) :
    takeDigits flags fuel chars = takeRun Char.isDigit flags fuel chars := by
  induction fuel generalizing chars with
  | zero => rfl
  | succ fuel ih => cases chars <;> simp [takeDigits, takeRun, ih]

theorem takeBoundaryName_eq (flags : Flags) (fuel : Nat) (chars : List Char) :
    takeBoundaryName flags fuel chars = takeRun isBoundaryChar flags fuel chars := by
  induction fuel generalizing chars with
  | zero => rfl
  | succ fuel ih => cases chars <;> simp [takeBoundaryName, takeRun, ih]

theorem takeHyphens_eq (flags : Flags) (state : OpenClass) (fuel : Nat) (chars : List Char) :
    takeHyphens flags state fuel chars =
      ((takeRun (· == '-') flags fuel chars).1.foldl (fun state c => state.addSet (.singleton c))
        state, (takeRun (· == '-') flags fuel chars).2) := by
  induction fuel generalizing state chars with
  | zero => rfl
  | succ fuel ih =>
      cases chars with
      | nil => rfl
      | cons c rest =>
          by_cases hc : c = '-'
          · subst hc
            simp [takeHyphens, takeRun, ih]
          · simp [takeHyphens, takeRun, hc]

theorem takeRun_suffix (kind : Char → Bool) (flags : Flags) (fuel : Nat) (chars : List Char) :
    (takeRun kind flags fuel chars).2 <:+ chars := by
  induction fuel generalizing chars with
  | zero => exact List.suffix_refl chars
  | succ fuel ih =>
      cases chars with
      | nil => exact List.suffix_refl []
      | cons c rest =>
          rw [takeRun]
          split
          · exact ((ih _).trans (flags.skip_suffix rest)).trans (List.suffix_cons c rest)
          · exact List.suffix_refl _

theorem takeRun_followed (kind : Char → Bool) (hkind : kind ')' = false) (flags : Flags)
    {chars chars' : List Char} (hchars : Followed chars chars') {fuel fuel' : Nat}
    (hfuel : chars.length < fuel) (hfuel' : chars'.length < fuel') :
    (takeRun kind flags fuel' chars').1 = (takeRun kind flags fuel chars).1 ∧
      Followed (takeRun kind flags fuel chars).2 (takeRun kind flags fuel' chars').2 := by
  induction fuel generalizing chars chars' fuel' with
  | zero => exact absurd hfuel (Nat.not_lt_zero _)
  | succ fuel ih =>
      obtain ⟨fuel', rfl⟩ := Nat.exists_eq_add_one_of_ne_zero (Nat.ne_zero_of_lt hfuel')
      cases hchars with
      | cons c rest =>
          rw [takeRun, takeRun]
          split
          · have hlength : (flags.skip rest).length < fuel :=
              Nat.lt_of_le_of_lt (flags.skip_suffix _).length_le (Nat.lt_of_succ_lt_succ hfuel)
            have hlength' : (flags.skip (rest ++ closing)).length < fuel' :=
              Nat.lt_of_le_of_lt (flags.skip_suffix _).length_le (Nat.lt_of_succ_lt_succ hfuel')
            obtain ⟨hrun, hafter⟩ := ih ((Followed.append rest).skip flags) hlength hlength'
            exact ⟨congrArg (c :: ·) hrun, hafter⟩
          · exact ⟨rfl, .cons c rest⟩
      | nil => simpa [takeRun, closing, hkind] using Followed.nil
      | swallowed => exact ⟨rfl, .swallowed⟩

/-! ## Marks -/

/-- The first place of a mark, when the mark is not in what follows. -/
theorem splitAt?_append {mark : Char} (hmark : mark ∉ closing) (chars : List Char) :
    splitAt? [mark] (chars ++ closing) =
      (splitAt? [mark] chars).map fun split => (split.1, split.2 ++ closing) := by
  induction chars with
  | nil =>
      simp only [closing, List.mem_cons, List.not_mem_nil, or_false, not_or] at hmark
      simp [splitAt?, closing, hmark.1, hmark.2]
  | cons c rest ih =>
      rw [List.cons_append, splitAt?, splitAt?, ih]
      by_cases hc : mark = c
      · simp [hc]
      · simp [hc, Function.comp_def]

theorem splitAt?_suffix {mark chars front back : List Char}
    (hsplit : splitAt? mark chars = some (front, back)) : back <:+ chars := by
  induction chars generalizing front with
  | nil => simp [splitAt?] at hsplit
  | cons c rest ih =>
      rw [splitAt?] at hsplit
      split at hsplit
      · obtain ⟨-, rfl⟩ := Prod.mk.inj (Option.some.inj hsplit)
        exact List.drop_suffix _ _
      · obtain ⟨⟨before, after⟩, hrest, heq⟩ := Option.map_eq_some_iff.mp hsplit
        obtain ⟨-, rfl⟩ := Prod.mk.inj heq
        exact (ih hrest).trans (List.suffix_cons c rest)

end CypherExpr.Regex
