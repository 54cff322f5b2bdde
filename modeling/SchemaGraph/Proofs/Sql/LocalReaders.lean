import Mathlib.Data.List.Basic

/-!
# Local readers

A reader takes elements from the front of a list: characters of a text, or tokens of a script. It is
local if it looks at one element beyond them at most (`Local`). Readers that are made of local ones
are local.
-/

namespace SchemaGraph.Sql

/-- The reader takes elements from the front of the list, and would do the same whatever stood after
the element that comes next. -/
def LocalAt {σ α : Type} (read : List σ → α × List σ) (ts : List σ) : Prop :=
  ∃ used, ts = used ++ (read ts).2 ∧
    ∀ t rest, (read ts).2 = t :: rest → ∀ more, read (used ++ t :: more) = ((read ts).1, t :: more)

/-- The reader does so wherever it begins. -/
def Local {σ α : Type} (read : List σ → α × List σ) : Prop := ∀ ts, LocalAt read ts

/-- One reader after the other, which may depend on what the first one read. -/
def andThen {σ α β : Type} (read : List σ → α × List σ) (next : α → List σ → β × List σ)
    (ts : List σ) : β × List σ :=
  next (read ts).1 (read ts).2

/-- One reader after the element, and another one where it does not stand. -/
def ifHead {σ α : Type} [DecidableEq σ] (t : σ) (read other : List σ → α × List σ) (ts : List σ) :
    α × List σ :=
  if ts.head? = some t then read ts.tail else other ts

/-- A reader that takes elements and gives nothing. -/
def taking {σ : Type} (skip : List σ → List σ) (ts : List σ) : Unit × List σ := ((), skip ts)

section
variable {σ α β : Type} {read other : List σ → α × List σ} {t : σ} {ts : List σ}

namespace LocalAt

theorem nil (h : (read []).2 = []) : LocalAt read [] := by
  refine ⟨[], h.symm, fun t rest hrest => ?_⟩
  rw [h] at hrest
  cases hrest

/-- The reader takes nothing. -/
theorem stop {a : α} (h : ∀ more, read (t :: more) = (a, t :: more)) : LocalAt read (t :: ts) := by
  refine ⟨[], by rw [h]; rfl, fun u rest hrest more => ?_⟩
  rw [h] at hrest
  cases hrest
  rw [List.nil_append, h, h]

/-- The reader takes one element. -/
theorem take {a : α} (h : ∀ more, read (t :: more) = (a, more)) : LocalAt read (t :: ts) := by
  refine ⟨[t], by rw [h]; rfl, fun u rest _ more => ?_⟩
  rw [List.singleton_append, h, h]

/-- The reader takes one element and goes on as another one. -/
theorem cons {f : β → α} {g : List σ → β × List σ}
    (h : ∀ more, read (t :: more) = (f (g more).1, (g more).2)) (hg : LocalAt g ts) :
    LocalAt read (t :: ts) := by
  obtain ⟨used, hused, hlocal⟩ := hg
  refine ⟨t :: used, ?_, fun u rest hrest more => ?_⟩
  · rw [h, List.cons_append, ← hused]
  · rw [h] at hrest
    rw [List.cons_append, h, h, hlocal u rest hrest]

end LocalAt

namespace Local

theorem congr (h : Local read) (heq : ∀ ts, other ts = read ts) : Local other := by
  rw [funext heq]
  exact h

/-- A reader that takes nothing may look at the first element. -/
theorem peek (f : Option σ → α) : Local fun ts => (f ts.head?, ts) := by
  intro ts
  cases ts with
  | nil => exact .nil rfl
  | cons t ts => exact .stop (a := f (some t)) fun more => rfl

/-- A reader that takes nothing and gives nothing new. -/
theorem give (a : α) : Local fun ts : List σ => (a, ts) := peek fun _ => a

theorem andThen {next : α → List σ → β × List σ} (h : Local read)
    (hnext : ∀ a, Local (next a)) : Local (Sql.andThen read next) := by
  intro ts
  obtain ⟨used, hused, hlocal⟩ := h ts
  obtain ⟨used', hused', hlocal'⟩ := hnext (read ts).1 (read ts).2
  refine ⟨used ++ used', ?_, fun t rest hrest more => ?_⟩
  · rw [List.append_assoc]
    exact hused.trans (congrArg _ hused')
  · have hafter := hlocal' t rest hrest more
    unfold Sql.andThen at hrest ⊢
    rw [hrest] at hused'
    -- the first reader sees the first element that the second one takes, or else the next one
    have hfirst : read (used ++ (used' ++ t :: more)) = ((read ts).1, used' ++ t :: more) := by
      cases used' with
      | nil => exact hlocal t rest hused' more
      | cons u used' => exact hlocal u _ hused' _
    rw [List.append_assoc, hfirst]
    exact hafter

theorem map (h : Local read) (f : α → β) : Local fun ts => (f (read ts).1, (read ts).2) :=
  h.andThen fun a => give (f a)

theorem ite {p : Prop} [Decidable p] (h : Local read) (ho : Local other) :
    Local fun ts => if p then read ts else other ts := by
  by_cases hp : p
  · simpa only [if_pos hp] using h
  · simpa only [if_neg hp] using ho

/-- A choice by the first element. -/
theorem iteHead {p : Option σ → Prop} [DecidablePred p] (h : Local read) (ho : Local other) :
    Local fun ts => if p ts.head? then read ts else other ts :=
  (peek id).andThen fun _ => h.ite ho

theorem ifHead [DecidableEq σ] (h : Local read) (ho : Local other) :
    Local (Sql.ifHead t read other) := by
  intro ts
  cases ts with
  | nil =>
    obtain ⟨used, hused, -⟩ := ho []
    exact .nil (List.append_eq_nil_iff.1 hused.symm).2
  | cons u ts =>
    by_cases hu : u = t
    · exact .cons (f := id) (fun more => if_pos (congrArg some hu)) (h ts)
    · have hother : ∀ more, Sql.ifHead t read other (u :: more) = other (u :: more) :=
        fun more => if_neg fun heq => hu (Option.some.inj heq)
      obtain ⟨used, hused, hlocal⟩ := ho (u :: ts)
      rw [← hother ts] at hused hlocal
      refine ⟨used, hused, fun v rest hrest more => ?_⟩
      rw [← hlocal v rest hrest more]
      -- the head is the same
      rw [hrest] at hused
      cases used with
      | nil =>
        cases hused
        exact hother more
      | cons _ used =>
        cases hused
        exact hother _

/-- What a local reader takes and gives is the same before another rest that begins alike. -/
theorem read_append (h : Local read) {used rest rest' : List σ} (hhead : rest'.head? = rest.head?)
    (hread : (read (used ++ rest)).2 = rest) :
    read (used ++ rest') = ((read (used ++ rest)).1, rest') := by
  obtain ⟨taken, htaken, hlocal⟩ := h (used ++ rest)
  rw [hread] at htaken
  obtain rfl : used = taken := List.append_cancel_right htaken
  cases rest with
  | nil =>
    obtain rfl : rest' = [] := List.head?_eq_none_iff.1 hhead
    exact Prod.ext rfl hread
  | cons t rest =>
    obtain ⟨more, rfl⟩ := List.head?_eq_some_iff.1 hhead
    exact hlocal t rest hread more

end Local

end

end SchemaGraph.Sql
