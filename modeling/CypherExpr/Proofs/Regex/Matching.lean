import CypherExpr.Regex.Basic

/-!
# What a regular expression matches

A regular expression relates the positions of a text: `regex.Leads text start finish` says that what
stands between the two is matched.  The sets of positions that a match is run on are exactly what
this relation leads to, although a repetition is cut off after as many rounds as the text has
characters.  What cuts it off is that a round never leads back: among more rounds than there are
characters one is idle, and an idle round can be left out or taken again.
-/

namespace CypherExpr.Regex

/-- Where a relation leads in a number of steps. -/
def Steps (relation : Nat → Nat → Prop) : Nat → Nat → Nat → Prop
  | 0, start, finish => start = finish
  | count + 1, start, finish => ∃ next, relation start next ∧ Steps relation count next finish

/-- The expression matches what stands between two positions of a text.  Bounds of a repetition that
no pattern has, the greater before the lesser, stand for the first of the two alone. -/
def Leads (text : Array Char) : Regex → Nat → Nat → Prop
  | .empty, start, finish => start = finish
  | .char set, start, finish => finish = start + 1 ∧ ∃ c, text[start]? = some c ∧ set.contains c
  | .look condition, start, finish =>
      start = finish ∧
        condition.holds (if start = 0 then none else text[start - 1]?) text[start]?
  | .seq left right, start, finish => ∃ middle, Leads text left start middle ∧
      Leads text right middle finish
  | .alt left right, start, finish => Leads text left start finish ∨ Leads text right start finish
  | .repeat body least most, start, finish =>
      ∃ count, least ≤ count ∧ (∀ bound, most = some bound → count ≤ max least bound) ∧
        Steps (Leads text body) count start finish

/-- The expression matches a whole text. -/
def MatchesWhole (regex : Regex) (text : String) : Prop :=
  regex.Leads text.toList.toArray 0 text.toList.toArray.size

/-! ## Steps of a relation -/

section Steps

variable {relation : Nat → Nat → Prop} {start middle finish : Nat}

theorem Steps.trans {first second : Nat} (hfirst : Steps relation first start middle)
    (hsecond : Steps relation second middle finish) :
    Steps relation (first + second) start finish := by
  induction first generalizing start with
  | zero =>
      rw [Nat.zero_add, show start = middle from hfirst]
      exact hsecond
  | succ first ih =>
      obtain ⟨next, hnext, hrest⟩ := hfirst
      rw [Nat.succ_add]
      exact ⟨next, hnext, ih hrest⟩

theorem steps_add {first second : Nat} :
    Steps relation (first + second) start finish ↔
      ∃ middle, Steps relation first start middle ∧ Steps relation second middle finish := by
  constructor
  · intro hsteps
    induction first generalizing start with
    | zero => exact ⟨start, rfl, by simpa using hsteps⟩
    | succ first ih =>
        rw [Nat.succ_add] at hsteps
        obtain ⟨next, hnext, hrest⟩ := hsteps
        obtain ⟨middle, hfirst, hsecond⟩ := ih hrest
        exact ⟨middle, ⟨next, hnext, hfirst⟩, hsecond⟩
  · rintro ⟨middle, hfirst, hsecond⟩
    exact hfirst.trans hsecond

theorem Steps.of_idle (hidle : relation start start) (count : Nat) :
    Steps relation count start start := by
  induction count with
  | zero => rfl
  | succ count ih => exact ⟨start, hidle, ih⟩

/-- Whatever each step preserves, all of them preserve. -/
theorem Steps.preserves {P : Nat → Prop}
    (hpreserves : ∀ start finish, relation start finish → P start → P finish) {count : Nat}
    (hsteps : Steps relation count start finish) (hstart : P start) : P finish := by
  induction count generalizing start with
  | zero => exact (show start = finish from hsteps) ▸ hstart
  | succ count ih =>
      obtain ⟨next, hnext, hrest⟩ := hsteps
      exact ih hrest (hpreserves start next hnext hstart)

variable (hforward : ∀ start finish, relation start finish → start ≤ finish)
include hforward

theorem Steps.le {count : Nat} (hsteps : Steps relation count start finish) : start ≤ finish :=
  hsteps.preserves (P := fun position => start ≤ position)
    (fun _ _ hstep hstart => Nat.le_trans hstart (hforward _ _ hstep)) (Nat.le_refl start)

/-- Among more steps than there are positions to pass one is idle, so any other number of steps
that passes these positions does as well. -/
theorem Steps.resize {count other : Nat} (hsteps : Steps relation count start finish)
    (hcount : finish - start < count) (hother : finish - start ≤ other) :
    Steps relation other start finish := by
  induction count generalizing start other with
  | zero => exact absurd hcount (Nat.not_lt_zero _)
  | succ count ih =>
      obtain ⟨next, hnext, hrest⟩ := hsteps
      have hfinish := hrest.le hforward
      rcases Nat.eq_or_lt_of_le (hforward start next hnext) with rfl | hpassed
      · by_cases hlong : finish - start < count
        · exact ih hrest hlong hother
        · have hexact : other = (other - count) + count := by omega
          rw [hexact]
          exact (Steps.of_idle hnext _).trans hrest
      · obtain ⟨other, rfl⟩ : ∃ fewer, other = fewer + 1 := ⟨other - 1, by omega⟩
        exact ⟨next, hnext, ih hrest (by omega) (by omega)⟩

/-- Idle steps left out, there are no more steps than positions to pass. -/
theorem Steps.shorten {count : Nat} (hsteps : Steps relation count start finish) :
    ∃ fewer, fewer ≤ count ∧ fewer ≤ finish - start ∧ Steps relation fewer start finish := by
  rcases Nat.lt_or_ge (finish - start) count with hlong | hshort
  · exact ⟨finish - start, Nat.le_of_lt hlong, Nat.le_refl _,
      hsteps.resize hforward hlong (Nat.le_refl _)⟩
  · exact ⟨count, Nat.le_refl count, hshort, hsteps⟩

/-- Rounds between two bounds, as a match takes them: the least number, cut off at one more than the
size of the text, and then at most as many more as the text has characters. -/
theorem steps_bounded_iff {size least : Nat} {most : Option Nat} (hfinish : finish ≤ size) :
    (∃ count, least ≤ count ∧ (∀ bound, most = some bound → count ≤ max least bound) ∧
      Steps relation count start finish) ↔
    ∃ extra, extra ≤ most.elim size (fun bound => min (bound - least) size) ∧
      Steps relation (min least (size + 1) + extra) start finish := by
  constructor
  · rintro ⟨count, hleast, hmost, hsteps⟩
    rcases Nat.le_total least (size + 1) with hsmall | hlarge
    · obtain ⟨extra, rfl⟩ := Nat.exists_eq_add_of_le hleast
      obtain ⟨middle, hfirst, hrest⟩ := steps_add.mp hsteps
      obtain ⟨fewer, hfewer, hpassed, hrest⟩ := hrest.shorten hforward
      refine ⟨fewer, ?_, ?_⟩
      · cases most with
        | none =>
            simp only [Option.elim_none]
            omega
        | some bound =>
            have := hmost bound rfl
            simp only [Option.elim_some]
            omega
      · rw [Nat.min_eq_left hsmall]
        exact hfirst.trans hrest
    · refine ⟨0, Nat.zero_le _, ?_⟩
      rw [Nat.min_eq_right hlarge, Nat.add_zero]
      exact hsteps.resize hforward (by omega) (by omega)
  · rintro ⟨extra, hextra, hsteps⟩
    rcases Nat.le_total least (size + 1) with hsmall | hlarge
    · rw [Nat.min_eq_left hsmall] at hsteps
      refine ⟨least + extra, Nat.le_add_right least extra, ?_, hsteps⟩
      rintro bound rfl
      simp only [Option.elim_some] at hextra
      omega
    · rw [Nat.min_eq_right hlarge] at hsteps
      exact ⟨least, Nat.le_refl least, fun bound _ => Nat.le_max_left least bound,
        hsteps.resize hforward (by omega) (by omega)⟩

end Steps

/-! ## The relation and the text -/

theorem Leads.le {text : Array Char} {regex : Regex} {start finish : Nat}
    (hleads : regex.Leads text start finish) : start ≤ finish := by
  induction regex generalizing start finish with
  | empty => exact Nat.le_of_eq hleads
  | char set => exact hleads.1 ▸ Nat.le_succ start
  | look condition => exact Nat.le_of_eq hleads.1
  | seq left right ihleft ihright =>
      obtain ⟨middle, hleft, hright⟩ := hleads
      exact Nat.le_trans (ihleft hleft) (ihright hright)
  | alt left right ihleft ihright => exact hleads.elim ihleft ihright
  | «repeat» body least most ih =>
      obtain ⟨count, -, -, hsteps⟩ := hleads
      exact hsteps.le fun _ _ => ih

theorem Leads.le_size {text : Array Char} {regex : Regex} {start finish : Nat}
    (hleads : regex.Leads text start finish) (hstart : start ≤ text.size) :
    finish ≤ text.size := by
  induction regex generalizing start finish with
  | empty => exact (show start = finish from hleads) ▸ hstart
  | char set =>
      obtain ⟨rfl, c, hc, -⟩ := hleads
      exact (Array.getElem?_eq_some_iff.mp hc).1
  | look condition => exact hleads.1 ▸ hstart
  | seq left right ihleft ihright =>
      obtain ⟨middle, hleft, hright⟩ := hleads
      exact ihright hright (ihleft hleft hstart)
  | alt left right ihleft ihright =>
      exact hleads.elim (fun hleft => ihleft hleft hstart) fun hright => ihright hright hstart
  | «repeat» body least most ih =>
      obtain ⟨count, -, -, hsteps⟩ := hleads
      exact hsteps.preserves (P := (· ≤ text.size)) (fun _ _ => ih) hstart

/-! ## Sets of positions -/

theorem mem_merge {left right : List Nat} {position : Nat} :
    position ∈ merge left right ↔ position ∈ left ∨ position ∈ right := by
  simp only [merge, List.mem_append, List.mem_filter, Bool.not_eq_true',
    List.contains_eq_mem, decide_eq_false_iff_not]
  by_cases hmem : position ∈ left <;> simp [hmem]

theorem subset_of_length_merge {left right : List Nat}
    (hlength : (merge left right).length = left.length) : ∀ position ∈ right, position ∈ left := by
  have hnone : (right.filter fun position => !left.contains position) = [] := by
    rw [merge, List.length_append] at hlength
    exact List.eq_nil_of_length_eq_zero (by omega)
  intro position hmem
  simpa using List.filter_eq_nil_iff.mp hnone position hmem

section Positions

variable {size : Nat} {step : List Nat → List Nat} {relation : Nat → Nat → Prop}
  (hstep : ∀ starts, (∀ start ∈ starts, start ≤ size) → ∀ finish,
    (finish ∈ step starts ↔ ∃ start ∈ starts, relation start finish))
  (hbound : ∀ start finish, relation start finish → start ≤ size → finish ≤ size)
include hstep hbound

theorem step_le_size {starts : List Nat} (hstarts : ∀ start ∈ starts, start ≤ size) :
    ∀ finish ∈ step starts, finish ≤ size := by
  intro finish hfinish
  obtain ⟨start, hstart, hrelated⟩ := (hstep starts hstarts finish).mp hfinish
  exact hbound start finish hrelated (hstarts start hstart)

theorem mem_iterate {starts : List Nat} (hstarts : ∀ start ∈ starts, start ≤ size) (count : Nat)
    (finish : Nat) :
    finish ∈ iterate step count starts ↔ ∃ start ∈ starts, Steps relation count start finish := by
  induction count generalizing starts with
  | zero => simp [iterate, Steps]
  | succ count ih =>
      rw [iterate, ih (step_le_size hstep hbound hstarts)]
      constructor
      · rintro ⟨next, hnext, hrest⟩
        obtain ⟨start, hstart, hrelated⟩ := (hstep starts hstarts next).mp hnext
        exact ⟨start, hstart, next, hrelated, hrest⟩
      · rintro ⟨start, hstart, next, hrelated, hrest⟩
        exact ⟨next, (hstep starts hstarts next).mpr ⟨start, hstart, hrelated⟩, hrest⟩

theorem mem_within {starts : List Nat} (hstarts : ∀ start ∈ starts, start ≤ size) (count : Nat)
    (finish : Nat) :
    finish ∈ within step count starts ↔
      ∃ start ∈ starts, ∃ fewer, fewer ≤ count ∧ Steps relation fewer start finish := by
  induction count generalizing starts with
  | zero => simp [within, Steps]
  | succ count ih =>
      rw [within]
      split
      · next hidle =>
          -- nothing new is reached in one step, hence nothing new in any number of steps
          have hclosed : ∀ start next, relation start next → start ∈ starts → next ∈ starts :=
            fun start next hrelated hstart => subset_of_length_merge hidle next
              ((hstep starts hstarts next).mpr ⟨start, hstart, hrelated⟩)
          constructor
          · intro hfinish
            exact ⟨finish, hfinish, 0, Nat.zero_le _, rfl⟩
          · rintro ⟨start, hstart, fewer, -, hsteps⟩
            exact hsteps.preserves hclosed hstart
      · have hmerged : ∀ start ∈ merge starts (step starts), start ≤ size := by
          intro start hstart
          exact (mem_merge.mp hstart).elim (hstarts start)
            (step_le_size hstep hbound hstarts start)
        rw [ih hmerged]
        constructor
        · rintro ⟨next, hnext, fewer, hfewer, hsteps⟩
          rcases mem_merge.mp hnext with hstart | hstepped
          · exact ⟨next, hstart, fewer, Nat.le_succ_of_le hfewer, hsteps⟩
          · obtain ⟨start, hstart, hrelated⟩ := (hstep starts hstarts next).mp hstepped
            exact ⟨start, hstart, fewer + 1, Nat.succ_le_succ hfewer, next, hrelated, hsteps⟩
        · rintro ⟨start, hstart, fewer, hfewer, hsteps⟩
          cases fewer with
          | zero => exact ⟨start, mem_merge.mpr (.inl hstart), 0, Nat.zero_le _, hsteps⟩
          | succ fewer =>
              obtain ⟨next, hrelated, hrest⟩ := hsteps
              have hnext := (hstep starts hstarts next).mpr ⟨start, hstart, hrelated⟩
              exact ⟨next, mem_merge.mpr (.inr hnext), fewer, Nat.le_of_succ_le_succ hfewer, hrest⟩

/-- The two loops of a repetition, one after the other, take the rounds between its bounds. -/
theorem mem_within_iterate (hforward : ∀ start finish, relation start finish → start ≤ finish)
    {starts : List Nat} (hstarts : ∀ start ∈ starts, start ≤ size) (least : Nat)
    (most : Option Nat) (finish : Nat) :
    finish ∈ within step (most.elim size fun bound => min (bound - least) size)
        (iterate step (min least (size + 1)) starts) ↔
      ∃ start ∈ starts, ∃ count, least ≤ count ∧
        (∀ bound, most = some bound → count ≤ max least bound) ∧
        Steps relation count start finish := by
  have harrived : ∀ middle ∈ iterate step (min least (size + 1)) starts, middle ≤ size := by
    intro middle hmem
    obtain ⟨start, hstart, hsteps⟩ := (mem_iterate hstep hbound hstarts _ middle).mp hmem
    exact hsteps.preserves (P := (· ≤ size)) hbound (hstarts start hstart)
  rw [mem_within hstep hbound harrived]
  constructor
  · rintro ⟨middle, hmiddle, extra, hextra, hrest⟩
    obtain ⟨start, hstart, hfirst⟩ := (mem_iterate hstep hbound hstarts _ middle).mp hmiddle
    have hfinish := hrest.preserves (P := (· ≤ size)) hbound (harrived middle hmiddle)
    exact ⟨start, hstart, (steps_bounded_iff hforward hfinish).mpr
      ⟨extra, hextra, hfirst.trans hrest⟩⟩
  · rintro ⟨start, hstart, count, hleast, hmost, hsteps⟩
    have hfinish := hsteps.preserves (P := (· ≤ size)) hbound (hstarts start hstart)
    obtain ⟨extra, hextra, hsteps⟩ :=
      (steps_bounded_iff hforward hfinish).mp ⟨count, hleast, hmost, hsteps⟩
    obtain ⟨middle, hfirst, hrest⟩ := steps_add.mp hsteps
    exact ⟨middle, (mem_iterate hstep hbound hstarts _ middle).mpr ⟨start, hstart, hfirst⟩,
      extra, hextra, hrest⟩

end Positions

/-- The positions at which an expression may end are those to which it leads. -/
theorem mem_ends {text : Array Char} {regex : Regex} {starts : List Nat}
    (hstarts : ∀ start ∈ starts, start ≤ text.size) (finish : Nat) :
    finish ∈ ends text regex starts ↔ ∃ start ∈ starts, regex.Leads text start finish := by
  induction regex generalizing starts finish with
  | empty => simp [ends, Leads]
  | char set =>
      rw [ends, List.mem_filterMap]
      refine exists_congr fun start => and_congr_right fun _ => ?_
      unfold Leads
      rw [@eq_comm _ finish]
      cases text[start]? with
      | none => simp
      | some c => by_cases hset : set.contains c <;> simp [hset]
  | look condition =>
      rw [ends, List.mem_filter]
      constructor
      · rintro ⟨hfinish, hholds⟩
        exact ⟨finish, hfinish, rfl, hholds⟩
      · rintro ⟨start, hstart, rfl, hholds⟩
        exact ⟨hstart, hholds⟩
  | seq left right ihleft ihright =>
      have hmiddle : ∀ middle ∈ ends text left starts, middle ≤ text.size := by
        intro middle hmem
        obtain ⟨start, hstart, hleft⟩ := (ihleft hstarts middle).mp hmem
        exact hleft.le_size (hstarts start hstart)
      rw [ends, ihright hmiddle]
      constructor
      · rintro ⟨middle, hmem, hright⟩
        obtain ⟨start, hstart, hleft⟩ := (ihleft hstarts middle).mp hmem
        exact ⟨start, hstart, middle, hleft, hright⟩
      · rintro ⟨start, hstart, middle, hleft, hright⟩
        exact ⟨middle, (ihleft hstarts middle).mpr ⟨start, hstart, hleft⟩, hright⟩
  | alt left right ihleft ihright =>
      rw [ends, mem_merge, ihleft hstarts, ihright hstarts]
      simp only [Leads, and_or_left, exists_or]
  | «repeat» body least most ih =>
      have hstep : ∀ starts, (∀ start ∈ starts, start ≤ text.size) → ∀ finish,
          (finish ∈ ends text body starts ↔ ∃ start ∈ starts, body.Leads text start finish) :=
        fun _ => ih
      have hbound : ∀ start finish, body.Leads text start finish → start ≤ text.size →
          finish ≤ text.size := fun _ _ hleads => hleads.le_size
      have hwithin : finish ∈ ends text (.repeat body least most) starts ↔
          finish ∈ within (ends text body)
            (most.elim text.size fun bound => min (bound - least) text.size)
            (iterate (ends text body) (min least (text.size + 1)) starts) := by
        cases most <;> rfl
      exact hwithin.trans (mem_within_iterate hstep hbound (fun _ _ hleads => hleads.le) hstarts
        least most finish)

/-! ## Whole matches -/

/-- A match is searched for anywhere in the text. -/
theorem isMatch_iff (regex : Regex) (text : String) :
    regex.isMatch text ↔
      ∃ start finish, start ≤ text.toList.toArray.size ∧
        regex.Leads text.toList.toArray start finish := by
  have hstarts : ∀ start ∈ List.range (text.toList.toArray.size + 1),
      start ≤ text.toList.toArray.size := fun start hmem =>
    Nat.le_of_lt_succ (List.mem_range.mp hmem)
  have hends : regex.isMatch text ↔ ∃ finish, finish ∈
      ends text.toList.toArray regex (List.range (text.toList.toArray.size + 1)) := by
    simp only [isMatch, Bool.not_eq_true', List.isEmpty_eq_false_iff_exists_mem]
  rw [hends]
  constructor
  · rintro ⟨finish, hfinish⟩
    obtain ⟨start, hstart, hleads⟩ := (mem_ends hstarts finish).mp hfinish
    exact ⟨start, finish, hstarts start hstart, hleads⟩
  · rintro ⟨start, finish, hstart, hleads⟩
    exact ⟨finish, (mem_ends hstarts finish).mpr
      ⟨start, List.mem_range.mpr (Nat.lt_succ_of_le hstart), hleads⟩⟩

/-- The expression between the two ends of a text. -/
def enclosed (regex : Regex) : Regex :=
  .seq (.look .textStart) (.seq regex (.seq (.look .textEnd) .empty))

theorem leads_textStart {text : Array Char} {start finish : Nat} (hstart : start ≤ text.size) :
    Leads text (.look .textStart) start finish ↔ start = 0 ∧ finish = 0 := by
  simp only [Leads, Look.holds, Option.isNone_iff_eq_none]
  cases start with
  | zero => simp [eq_comm]
  | succ start =>
      have hbefore : text[start]? ≠ none := by
        rw [ne_eq, Array.getElem?_eq_none_iff]
        omega
      simp [hbefore]

theorem leads_textEnd {text : Array Char} {start finish : Nat} :
    Leads text (.look .textEnd) start finish ↔ start = finish ∧ text.size ≤ start := by
  simp [Leads, Look.holds]

/-- Between the ends of a text, an expression matches anywhere only if it matches the whole. -/
theorem isMatch_enclosed (regex : Regex) (text : String) :
    regex.enclosed.isMatch text ↔ regex.MatchesWhole text := by
  rw [isMatch_iff, MatchesWhole]
  constructor
  · rintro ⟨start, _, hstart, first, hfirst, last, hleads, finish, hlast, -⟩
    obtain ⟨rfl, rfl⟩ := (leads_textStart hstart).mp hfirst
    have hsize := (leads_textEnd.mp hlast).2
    rw [Nat.le_antisymm hsize (hleads.le_size hstart)]
    exact hleads
  · intro hleads
    exact ⟨0, _, Nat.zero_le _, 0, (leads_textStart (Nat.zero_le _)).mpr ⟨rfl, rfl⟩, _, hleads, _,
      leads_textEnd.mpr ⟨rfl, Nat.le_refl _⟩, rfl⟩

end CypherExpr.Regex
