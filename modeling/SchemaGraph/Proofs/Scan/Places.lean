import Mathlib.Data.Nat.PSub
import SchemaGraph.Sql.Statement

/-!
# Scans and places

The readers of `SchemaGraph.Sql` take tokens off the front of a list. A scan leaves the list as it
is and moves a place along it. What cannot happen to a reader a scan has to avoid: to stand still,
to leave the list, to cut a stretch that is not there, to count below zero. A scan that does any of
these gives nothing.

A loop advances if each of its turns leaves the loop or moves the place on, and none leads outside
(`Advances`). Such a loop ends, and if no turn changes what there is to read, it gives what the
reader gives (`ends_loop`).
-/

namespace SchemaGraph.Sql.Scan

/-! ## Loops -/

section
variable {α β : Type}

/-- What one turn of a loop comes to: the loop goes on, or it is left. -/
inductive Turn (α β : Type) where
  | next (pos : Nat) (a : α)
  | leave (pos : Nat) (b : β)

/-- Turns from a place and a value on, until one leaves the loop. A turn that fails gives nothing,
and so does one that goes on without a place further on, or outside of a list of length `n`. -/
def loop (n : Nat) (turn : Nat → α → Option (Turn α β)) (pos : Nat) (a : α) : Option (Nat × β) :=
  match turn pos a with
  | some (.next pos' a') => if pos < pos' ∧ pos' ≤ n then loop n turn pos' a' else none
  | some (.leave pos' b) => if pos ≤ pos' ∧ pos' ≤ n then some (pos', b) else none
  | none => none
termination_by n - pos
decreasing_by omega

/-- The turns from a place and a value on come to an end, at the given place and with the given
result. Nothing is asked of the places in between. -/
inductive Run (turn : Nat → α → Option (Turn α β)) : Nat → α → Nat → β → Prop where
  | next {pos pos' last : Nat} {a a' : α} {b : β} (h : turn pos a = some (.next pos' a'))
    (rest : Run turn pos' a' last b) : Run turn pos a last b
  | leave {pos last : Nat} {a : α} {b : β} (h : turn pos a = some (.leave last b)) :
    Run turn pos a last b

/-- What a loop gives is what its turns come to, with or without the checks. -/
theorem Run.of_loop {n pos last : Nat} {turn : Nat → α → Option (Turn α β)} {a : α} {b : β}
    (h : loop n turn pos a = some (last, b)) : Run turn pos a last b := by
  fun_induction loop n turn pos a with
  | case1 pos a pos' a' hturn hon ih => exact .next hturn (ih h)
  | case2 => cases h
  | case3 pos a pos' b' hturn hin =>
    cases h
    exact .leave hturn
  | case4 => cases h
  | case5 => cases h

/-- From the given place, a turn does not fail. It leaves the loop, or goes on at a place further on
with a value such as the loop may have; either way the place is one of a list of length `n`. -/
inductive Onward (n : Nat) (good : α → Prop) (pos : Nat) : Option (Turn α β) → Prop where
  | next {pos' : Nat} {a : α} (on : pos < pos') (inside : pos' ≤ n) (value : good a) :
    Onward n good pos (some (.next pos' a))
  | leave {pos' : Nat} {b : β} (on : pos ≤ pos') (inside : pos' ≤ n) :
    Onward n good pos (some (.leave pos' b))

/-- Every turn of the loop leaves it or moves the place on, within a list of length `n`. -/
def Advances (n : Nat) (good : α → Prop) (turn : Nat → α → Option (Turn α β)) : Prop :=
  ∀ pos a, pos ≤ n → good a → Onward n good pos (turn pos a)

end

/-! ## Places -/

/-- A list of tokens as a scan has it, in which `none` marks the end of the script. -/
abbrev Source := List (Option Token)

/-- There is no mark of the end in the list. Clauses are such lists. -/
def Plain (src : Source) : Prop := none ∉ src

/-- The tokens up to the first mark of the end, or all of them. -/
def upToEnd : Source → List Token
  | some t :: rest => t :: upToEnd rest
  | _ => []

variable (src : Source) (pos : Nat)

/-- The token at a place; none where the end is marked, and none outside of the list. -/
def current : Option Token := src[pos]?.join

/-- The next place, which is the same at the end of the list. -/
def advance : Nat := if pos < src.length then pos + 1 else pos

/-- The place after a token that may stand here. -/
def eat (t : Token) : Nat := if current src pos = some t then advance src pos else pos

/-- The name at a place. -/
def nameAt : Option String := (current src pos).bind Token.name?

/-- The tokens ahead of a place. -/
def ahead : List Token := upToEnd (src.drop pos)

/-- The stretch from one place to another, which have to come in this order and lie within the list.
-/
def slice {α : Type} (xs : List α) (start stop : Nat) : Option (List α) :=
  if start ≤ stop ∧ stop ≤ xs.length then some ((xs.drop start).take (stop - start)) else none

/-- A scan gives a result, and ends at a place that is not before the given one and not outside of
the list. Of the result and the tokens ahead then the condition holds. -/
def Ends {β : Type} (scan : Option (Nat × β)) (post : β → List Token → Prop) : Prop :=
  ∃ pos' b, scan = some (pos', b) ∧ pos ≤ pos' ∧ pos' ≤ src.length ∧ post b (ahead src pos')

variable {src pos}

theorem advance_of_lt (h : pos < src.length) : advance src pos = pos + 1 := if_pos h

theorem le_advance : pos ≤ advance src pos := by
  unfold advance
  split <;> omega

theorem advance_le (h : pos ≤ src.length) : advance src pos ≤ src.length := by
  unfold advance
  split <;> omega

theorem lt_of_current {t : Token} (h : current src pos = some t) : pos < src.length := by
  by_contra hpos
  rw [current, List.getElem?_eq_none (Nat.le_of_not_lt hpos)] at h
  cases h

theorem ahead_of_none (h : current src pos = none) : ahead src pos = [] := by
  by_cases hpos : pos < src.length
  · rw [current, List.getElem?_eq_getElem hpos, Option.join_some] at h
    rw [ahead, List.drop_eq_getElem_cons hpos, h, upToEnd]
    simp
  · rw [ahead, List.drop_eq_nil_of_le (Nat.le_of_not_lt hpos), upToEnd]
    simp

theorem ahead_of_some {t : Token} (h : current src pos = some t) :
    ahead src pos = t :: ahead src (advance src pos) := by
  have hpos := lt_of_current h
  rw [current, List.getElem?_eq_getElem hpos, Option.join_some] at h
  rw [advance_of_lt hpos, ahead, List.drop_eq_getElem_cons hpos, h, upToEnd, ahead]

theorem lt_advance_of_some {t : Token} (h : current src pos = some t) : pos < advance src pos := by
  rw [advance_of_lt (lt_of_current h)]
  exact Nat.lt_succ_self pos

theorem head?_ahead : (ahead src pos).head? = current src pos := by
  cases h : current src pos with
  | none => rw [ahead_of_none h, List.head?_nil]
  | some t => rw [ahead_of_some h, List.head?_cons]

theorem current_of_ahead {t : Token} {rest : List Token} (h : ahead src pos = t :: rest) :
    current src pos = some t := by rw [← head?_ahead, h, List.head?_cons]

/-- Where no end is marked there is a token at every place. -/
theorem Plain.current_isSome (h : Plain src) (hpos : pos < src.length) :
    ∃ t, current src pos = some t := by
  have hmem : src[pos] ∈ src := List.getElem_mem hpos
  rw [current, List.getElem?_eq_getElem hpos, Option.join_some]
  exact Option.ne_none_iff_exists'.1 fun hnone => h (hnone ▸ hmem)

theorem ahead_of_length_le (h : src.length ≤ pos) : ahead src pos = [] :=
  ahead_of_none (by rw [current, List.getElem?_eq_none h]; rfl)

theorem plain_iff : Plain src ↔ ∃ ts : List Token, src = ts.map some := by
  constructor
  · intro h
    induction src with
    | nil => exact ⟨[], rfl⟩
    | cons t rest ih =>
      rw [Plain, List.mem_cons, not_or] at h
      obtain ⟨u, rfl⟩ := Option.ne_none_iff_exists'.1 (Ne.symm h.1)
      obtain ⟨ts, rfl⟩ := ih h.2
      exact ⟨u :: ts, rfl⟩
  · rintro ⟨ts, rfl⟩
    simp [Plain]

theorem upToEnd_map_some (ts : List Token) : upToEnd (ts.map some) = ts := by
  induction ts with
  | nil => rfl
  | cons t ts ih => rw [List.map_cons, upToEnd, ih]

theorem upToEnd_ended (ts : List Token) : upToEnd (ts.map some ++ [none]) = ts := by
  induction ts with
  | nil => rfl
  | cons t ts ih => rw [List.map_cons, List.cons_append, upToEnd, ih]

theorem ahead_map_some (ts : List Token) (pos : Nat) : ahead (ts.map some) pos = ts.drop pos := by
  rw [ahead, ← List.map_drop, upToEnd_map_some]

theorem slice_of_le {α : Type} {xs : List α} {start stop : Nat} (h : start ≤ stop)
    (hstop : stop ≤ xs.length) : slice xs start stop = some ((xs.drop start).take (stop - start)) :=
  if_pos ⟨h, hstop⟩

/-- The tokens after one that may stand at their beginning. -/
def afterToken (t : Token) : List Token → List Token
  | u :: rest => if u = t then rest else u :: rest
  | [] => []

theorem afterToken_keyword (k : Keyword) (ts : List Token) :
    afterToken (.keyword k) ts = skipKeyword k ts := by cases ts <;> rfl

/-- From one place to another, not before it and inside of the list, what is ahead becomes what
`f` leaves of it. -/
structure Skips (src : Source) (pos stop : Nat) (f : List Token → List Token) : Prop where
  on : pos ≤ stop
  inside : stop ≤ src.length
  ahead_eq : ahead src stop = f (ahead src pos)

theorem Skips.trans {stop last : Nat} {f g : List Token → List Token} (h : Skips src pos stop f)
    (h' : Skips src stop last g) : Skips src pos last fun ts => g (f ts) where
  on := Nat.le_trans h.on h'.on
  inside := h'.inside
  ahead_eq := by rw [h'.ahead_eq, h.ahead_eq]

theorem skips_eat (t : Token) (hpos : pos ≤ src.length) :
    Skips src pos (eat src pos t) (afterToken t) := by
  unfold eat
  split
  · rename_i hcur
    exact ⟨le_advance, advance_le hpos, by rw [ahead_of_some hcur, afterToken, if_pos rfl]⟩
  · rename_i hcur
    refine ⟨Nat.le_refl pos, hpos, ?_⟩
    cases hu : current src pos with
    | none => rw [ahead_of_none hu, afterToken]
    | some u => rw [ahead_of_some hu, afterToken, if_neg (by rintro rfl; exact hcur hu)]

theorem skips_keyword (k : Keyword) (hpos : pos ≤ src.length) :
    Skips src pos (eat src pos (.keyword k)) (skipKeyword k) := by
  have h := skips_eat (.keyword k) hpos
  exact ⟨h.on, h.inside, h.ahead_eq.trans (afterToken_keyword k _)⟩

/-! ## Scans one after the other -/

section
variable {β γ : Type} {scan : Option (Nat × β)} {post : β → List Token → Prop}

theorem Ends.done {pos' : Nat} {b : β} (on : pos ≤ pos') (inside : pos' ≤ src.length)
    (h : post b (ahead src pos')) : Ends src pos (some (pos', b)) post :=
  ⟨pos', b, rfl, on, inside, h⟩

theorem Ends.bind {k : Nat × β → Option (Nat × γ)} {post' : γ → List Token → Prop}
    (h : Ends src pos scan post)
    (hk : ∀ pos' b, pos ≤ pos' → pos' ≤ src.length → post b (ahead src pos') →
      Ends src pos' (k (pos', b)) post') : Ends src pos (scan >>= k) post' := by
  obtain ⟨pos', b, rfl, on, inside, hb⟩ := h
  obtain ⟨last, c, hscan, hle, hlast, hc⟩ := hk pos' b on inside hb
  exact ⟨last, c, hscan, Nat.le_trans on hle, hlast, hc⟩

/-- What ends from a place on ends from an earlier one on. -/
theorem Ends.before {start : Nat} (h : Ends src pos scan post) (hle : start ≤ pos) :
    Ends src start scan post := by
  obtain ⟨pos', b, hscan, on, inside, hb⟩ := h
  exact ⟨pos', b, hscan, Nat.le_trans hle on, inside, hb⟩

theorem Ends.imp {post' : β → List Token → Prop} (h : Ends src pos scan post)
    (hpost : ∀ b rest, post b rest → post' b rest) : Ends src pos scan post' := by
  obtain ⟨pos', b, hscan, on, inside, hb⟩ := h
  exact ⟨pos', b, hscan, on, inside, hpost b _ hb⟩

end

/-! ## Loops that read -/

section
variable {α β γ : Type} {good : α → Prop} {p : Prop} {spec : α → List Token → γ}
  {view : β → List Token → γ} {turn : Nat → α → Option (Turn α β)}

variable (src good p spec view pos) in
/-- A turn leads onward, and if `p` holds it changes nothing of what `spec` says of the value and
the tokens ahead; where it leaves the loop, that is the result. -/
inductive Leads (a : α) : Option (Turn α β) → Prop where
  | next {pos' : Nat} {a' : α} (on : pos < pos') (inside : pos' ≤ src.length) (value : good a')
    (same : p → spec a (ahead src pos) = spec a' (ahead src pos')) : Leads a (some (.next pos' a'))
  | leave {pos' : Nat} {b : β} (on : pos ≤ pos') (inside : pos' ≤ src.length)
    (result : p → spec a (ahead src pos) = view b (ahead src pos')) : Leads a (some (.leave pos' b))

theorem Leads.onward {a : α} {t : Option (Turn α β)} (h : Leads src pos good p spec view a t) :
    Onward src.length good pos t := by
  cases h with
  | next on inside value => exact .next on inside value
  | leave on inside => exact .leave on inside

/-- A turn that reads the token here goes on behind it. -/
theorem Leads.step {t : Token} (hcur : current src pos = some t) {a a' : α} (value : good a')
    (same : p → spec a (t :: ahead src (advance src pos)) = spec a' (ahead src (advance src pos))) :
    Leads src pos good p spec view a (some (.next (advance src pos) a')) :=
  .next (lt_advance_of_some hcur) (advance_le (Nat.le_of_lt (lt_of_current hcur))) value
    fun hp => (ahead_of_some hcur).symm ▸ same hp

/-- A turn that reads the token here and skips what may follow it goes on at the place behind. -/
theorem Leads.skip {t : Token} (hcur : current src pos = some t) {stop : Nat}
    {f : List Token → List Token} (h : Skips src (advance src pos) stop f) {a a' : α}
    (value : good a')
    (same : p → spec a (t :: ahead src (advance src pos))
      = spec a' (f (ahead src (advance src pos)))) :
    Leads src pos good p spec view a (some (.next stop a')) := by
  refine .next (Nat.lt_of_lt_of_le (lt_advance_of_some hcur) h.on) h.inside value fun hp => ?_
  rw [ahead_of_some hcur, h.ahead_eq]
  exact same hp

/-- A turn that reads the token here and then scans goes on behind what it scanned. -/
theorem Leads.scan {δ : Type} {t : Token} (hcur : current src pos = some t) {a : α}
    {scan : Option (Nat × δ)} {f : δ → α} (value : ∀ d, good (f d))
    (h : Ends src (advance src pos) scan fun d rest =>
      p → spec a (t :: ahead src (advance src pos)) = spec (f d) rest) :
    Leads src pos good p spec view a (scan >>= fun s => some (.next s.1 (f s.2))) := by
  obtain ⟨stop, d, rfl, on, inside, hd⟩ := h
  exact .next (Nat.lt_of_lt_of_le (lt_advance_of_some hcur) on) inside (value d)
    fun hp => (ahead_of_some hcur).symm ▸ hd hp

/-- A loop of turns that lead onward ends, and its result is what was to be read at the beginning.
The induction is on the part of the list behind the place, which every turn makes shorter. -/
theorem ends_loop
    (h : ∀ pos a, pos ≤ src.length → good a → Leads src pos good p spec view a (turn pos a))
    (hpos : pos ≤ src.length) {a : α} (ha : good a) :
    Ends src pos (loop src.length turn pos a) fun b rest =>
      p → spec a (ahead src pos) = view b rest := by
  induction hleft : src.length - pos using Nat.strong_induction_on generalizing pos a with
  | _ left ih =>
    have hturn := h pos a hpos ha
    rw [loop]
    generalize turn pos a = t at hturn
    cases hturn with
    | @next pos' a' on inside value same =>
      obtain ⟨last, b, hloop, hle, hlast, hresult⟩ := ih _ (by omega) inside value rfl
      refine ⟨last, b, ?_, by omega, hlast, fun hp => (same hp).trans (hresult hp)⟩
      exact (if_pos ⟨on, inside⟩).trans hloop
    | leave on inside result => exact ⟨_, _, if_pos ⟨on, inside⟩, on, inside, result⟩

end

end SchemaGraph.Sql.Scan
