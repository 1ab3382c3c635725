import Mathlib.Logic.Function.Basic
import Mathlib.Logic.Relation
import PcRemote.Transition

/-! Lock programs, and deadlock freedom from an order of the locks. A program says which guards
are taken in which scopes; what else the code computes only decides which branch it takes, and
every branch counts. -/
namespace PcRemote.LockOrder
open Transition

/-- A guard is held for its whole scope, however the scope is left. -/
inductive Prog (L : Type*)
  | skip
  | guard (l : L) (body : Prog L)
  | seq (p q : Prog L)
  | choice (p q : Prog L)
  /-- A loop can end after any number of iterations, or never. -/
  | loop (body : Prog L)
  /-- A function: it ends where it returns. -/
  | call (body : Prog L)
  | ret
  /-- The next iteration of the enclosing loop. -/
  | next
  /-- The thread goes no further and drops nothing. -/
  | stop
  deriving DecidableEq

inductive Event (L : Type*)
  | acquire (l : L)
  | release (l : L)
  deriving DecidableEq, Repr

/-- How a program is left. -/
inductive Exit
  | done
  | ret
  | next
  | stop
  | panic
  deriving DecidableEq, Repr

section
variable {L : Type*}

namespace Prog

def block : List (Prog L) → Prog L
  | [] => .skip
  | p :: ps => .seq p (block ps)

def branch : List (Prog L) → Prog L
  | [] => .skip
  | [p] => p
  | p :: q :: ps => .choice p (branch (q :: ps))

/-- Something that may or may not happen. -/
def option (p : Prog L) : Prog L := .choice p .skip

/-- Leaving a function early, or going on. -/
def question : Prog L := .choice .ret .skip

end Prog

/-- Leaving a function by returning is how it ends; the other ways go on to the caller. -/
def Exit.returned : Exit → Exit
  | .ret => .done
  | x => x

/-- The locks an execution of a program takes and drops, and how the program is left. A panic can
come at any point; it drops the guards on its way. -/
inductive Exec : Prog L → List (Event L) → Exit → Prop
  | skip : Exec .skip [] .done
  | guard {l : L} {p : Prog L} {t : List (Event L)} {x : Exit} (hp : Exec p t x) (hx : x ≠ .stop) :
      Exec (.guard l p) (.acquire l :: (t ++ [.release l])) x
  | guardStop {l : L} {p : Prog L} {t : List (Event L)} (hp : Exec p t .stop) :
      Exec (.guard l p) (.acquire l :: t) .stop
  | seq {p q : Prog L} {t u : List (Event L)} {x : Exit} (hp : Exec p t .done) (hq : Exec q u x) :
      Exec (.seq p q) (t ++ u) x
  | seqExit {p q : Prog L} {t : List (Event L)} {x : Exit} (hp : Exec p t x) (hx : x ≠ .done) :
      Exec (.seq p q) t x
  | left {p q : Prog L} {t : List (Event L)} {x : Exit} (hp : Exec p t x) : Exec (.choice p q) t x
  | right {p q : Prog L} {t : List (Event L)} {x : Exit} (hq : Exec q t x) : Exec (.choice p q) t x
  | loopEnd {p : Prog L} : Exec (.loop p) [] .done
  | loopNext {p : Prog L} {t u : List (Event L)} {x y : Exit} (hp : Exec p t x)
      (hx : x = .done ∨ x = .next) (hrest : Exec (.loop p) u y) : Exec (.loop p) (t ++ u) y
  | loopExit {p : Prog L} {t : List (Event L)} {x : Exit} (hp : Exec p t x)
      (hx : x ≠ .done ∧ x ≠ .next) : Exec (.loop p) t x
  | call {p : Prog L} {t : List (Event L)} {x : Exit} (hp : Exec p t x) :
      Exec (.call p) t x.returned
  | ret : Exec .ret [] .ret
  | next : Exec .next [] .next
  | stop : Exec .stop [] .stop
  | panic (p : Prog L) : Exec p [] .panic

section Held
variable [DecidableEq L]

/-- The locks that are held after some events. -/
def after : List L → List (Event L) → List L
  | held, [] => held
  | held, .acquire l :: t => after (l :: held) t
  | held, .release l :: t => after (held.erase l) t

lemma after_append (held : List L) (t u : List (Event L)) :
    after held (t ++ u) = after (after held t) u := by
  induction t generalizing held with
  | nil => rfl
  | cons e t ih => cases e <;> exact ih _

/-- An execution leaves the locks as they were, unless it stopped. -/
lemma Exec.after_eq {p : Prog L} {t : List (Event L)} {x : Exit} (h : Exec p t x) (hx : x ≠ .stop)
    (held : List L) : after held t = held := by
  induction h generalizing held with
  | skip | ret | next | panic | loopEnd => rfl
  | stop => exact absurd rfl hx
  | @guard l p t x _ hx ih =>
    change after (l :: held) (t ++ [.release l]) = held
    rw [after_append, ih hx]
    simp [after]
  | guardStop => exact absurd rfl hx
  | seq _ _ ihp ihq => rw [after_append, ihp (by decide), ihq hx]
  | seqExit _ _ ih | left _ ih | right _ ih | loopExit _ _ ih => exact ih hx held
  | loopNext _ hexit _ ihp ihrest =>
    rw [after_append, ihp (by rcases hexit with rfl | rfl <;> decide), ihrest hx]
  | call _ ih =>
    apply ih
    rintro rfl
    exact hx rfl

/-- Whenever a lock is taken, it may be taken under the locks that are held. -/
def Respects (allowed : List L → L → Prop) : List L → List (Event L) → Prop
  | _, [] => True
  | held, .acquire l :: t => allowed held l ∧ Respects allowed (l :: held) t
  | held, .release l :: t => Respects allowed (held.erase l) t

variable {allowed : List L → L → Prop}

lemma respects_append {held : List L} {t u : List (Event L)} :
    Respects allowed held (t ++ u) ↔
      Respects allowed held t ∧ Respects allowed (after held t) u := by
  induction t generalizing held with
  | nil => exact (true_and _).symm.to_iff
  | cons e t ih =>
    cases e with
    | acquire l => exact (and_congr_right fun _ => ih).trans and_assoc.symm
    | release l => exact ih

lemma Respects.mono {weaker : List L → L → Prop}
    (hweaker : ∀ held l, allowed held l → weaker held l)
    {held : List L} {t : List (Event L)} (h : Respects allowed held t) :
    Respects weaker held t := by
  induction t generalizing held with
  | nil => exact h
  | cons e t ih =>
    cases e with
    | acquire l => exact ⟨hweaker held l h.1, ih h.2⟩
    | release l => exact ih h

end Held

/-! ### Checking a program -/

/-- Every guard of a program is accepted, and what is known in its scope is used there. -/
def Prog.check {σ : Type*} (enter : σ → L → Option σ) : σ → Prog L → Bool
  | a, .guard l p =>
    match enter a l with
    | some b => p.check enter b
    | none => false
  | a, .seq p q | a, .choice p q => p.check enter a && q.check enter a
  | a, .loop p | a, .call p => p.check enter a
  | _, .skip | _, .ret | _, .next | _, .stop => true

/-- What the check knows about the locks that are held, and what it accepts under them. -/
structure Sound [DecidableEq L] {σ : Type*} (enter : σ → L → Option σ)
    (known : σ → List L → Prop) (allowed : List L → L → Prop) : Prop where
  allow : ∀ {a b l held}, enter a l = some b → known a held → allowed held l
  scope : ∀ {a b l held}, enter a l = some b → known a held → known b (l :: held)

theorem Exec.respects [DecidableEq L] {σ : Type*} {enter : σ → L → Option σ}
    {known : σ → List L → Prop} {allowed : List L → L → Prop} (hsound : Sound enter known allowed)
    {p : Prog L} {t : List (Event L)} {x : Exit} (h : Exec p t x) {a : σ}
    (hp : p.check enter a = true) {held : List L} (hheld : known a held) :
    Respects allowed held t := by
  induction h generalizing a held with
  | skip | ret | next | stop | panic | loopEnd => trivial
  | @guard l p t x hexec hx ih =>
    rw [Prog.check] at hp
    split at hp
    next b hb =>
      refine ⟨hsound.allow hb hheld, respects_append.mpr ⟨ih hp (hsound.scope hb hheld), ?_⟩⟩
      trivial
    next => exact absurd hp (by decide)
  | @guardStop l p t hexec ih =>
    rw [Prog.check] at hp
    split at hp
    next b hb => exact ⟨hsound.allow hb hheld, ih hp (hsound.scope hb hheld)⟩
    next => exact absurd hp (by decide)
  | seq hpe _ ihp ihq =>
    simp only [Prog.check, Bool.and_eq_true] at hp
    rw [respects_append, hpe.after_eq (by decide)]
    exact ⟨ihp hp.1 hheld, ihq hp.2 hheld⟩
  | seqExit _ _ ih | left _ ih =>
    simp only [Prog.check, Bool.and_eq_true] at hp
    exact ih hp.1 hheld
  | right _ ih =>
    simp only [Prog.check, Bool.and_eq_true] at hp
    exact ih hp.2 hheld
  | loopNext hpe hx _ ihp ihrest =>
    rw [respects_append, hpe.after_eq (by rcases hx with rfl | rfl <;> decide)]
    exact ⟨ihp hp hheld, ihrest hp hheld⟩
  | loopExit _ _ ih | call _ ih => exact ih hp hheld

section Ordered
variable [DecidableEq L] (rank : L → ℕ)

/-- Whenever a lock is taken, all the locks that are held rank below it. -/
def Ordered : List L → List (Event L) → Prop
  | _, [] => True
  | held, .acquire l :: t => (∀ k ∈ held, rank k < rank l) ∧ Ordered (l :: held) t
  | held, .release l :: t => Ordered (held.erase l) t

/-- Each guard of a program ranks at least the bound, and those in its scope rank above it. -/
def Prog.ordered : ℕ → Prog L → Bool
  | n, .guard l p => n ≤ rank l && p.ordered (rank l + 1)
  | n, .seq p q | n, .choice p q => p.ordered n && q.ordered n
  | n, .loop p | n, .call p => p.ordered n
  | _, .skip | _, .ret | _, .next | _, .stop => true

def Below (held : List L) (l : L) : Prop := ∀ k ∈ held, rank k < rank l

/-- A guard is accepted from the bound on, and sets the bound of its scope. -/
def enterRank (n : ℕ) (l : L) : Option ℕ := if n ≤ rank l then some (rank l + 1) else none

end Ordered

section Soundness
variable {rank : L → ℕ}

lemma Prog.ordered_eq (p : Prog L) (n : ℕ) : p.ordered rank n = p.check (enterRank rank) n := by
  induction p generalizing n with
  | guard l p ih =>
    rw [Prog.ordered, Prog.check, enterRank, ih]
    by_cases hn : n ≤ rank l
    · simp [hn]
    · simp [hn]
  | seq p q ihp ihq | choice p q ihp ihq => rw [Prog.ordered, Prog.check, ihp, ihq]
  | loop p ih | call p ih => rw [Prog.ordered, Prog.check, ih]
  | skip | ret | next | stop => rfl

variable [DecidableEq L]

lemma ordered_iff {held : List L} {t : List (Event L)} :
    Ordered rank held t ↔ Respects (Below rank) held t := by
  induction t generalizing held with
  | nil => exact Iff.rfl
  | cons e t ih =>
    cases e with
    | acquire l => exact and_congr_right fun _ => ih
    | release l => exact ih

/-- In the scope of a guard that is accepted, all the locks that are held rank below the bound of
the scope. -/
lemma enterRank_sound :
    Sound (enterRank rank) (fun n held => ∀ k ∈ held, rank k < n) (Below rank) := by
  have hbound : ∀ {n m : ℕ} {l : L}, enterRank rank n l = some m → n ≤ rank l ∧ m = rank l + 1 := by
    intro n m l h
    unfold enterRank at h
    split_ifs at h with hn
    exact ⟨hn, (Option.some.inj h).symm⟩
  constructor
  · intro n m l held h hheld k hk
    exact Nat.lt_of_lt_of_le (hheld k hk) (hbound h).1
  · intro n m l held h hheld k hk
    obtain ⟨hn, rfl⟩ := hbound h
    rcases List.mem_cons.mp hk with rfl | hmem
    · exact Nat.lt_succ_self _
    · exact Nat.lt_succ_of_le (Nat.le_trans (Nat.le_of_lt (hheld k hmem)) hn)

/-- An execution under locks that rank below the bound is ordered. -/
lemma Exec.ordered {p : Prog L} {t : List (Event L)} {x : Exit} (h : Exec p t x) {n : ℕ}
    (hp : p.ordered rank n = true) {held : List L} (hheld : ∀ k ∈ held, rank k < n) :
    Ordered rank held t := by
  rw [Prog.ordered_eq] at hp
  exact ordered_iff.mpr (h.respects enterRank_sound hp hheld)

end Soundness

/-- What a thread holds, and what its execution still does. -/
structure ThreadState (L : Type*) where
  held : List L
  todo : List (Event L)

section Waiting
variable {T : Type*}

/-- The first thread is about to take a lock that the second one holds. -/
def WaitsFor (s : T → ThreadState L) (i j : T) : Prop :=
  ∃ l t, (s i).todo = .acquire l :: t ∧ l ∈ (s j).held

variable [DecidableEq L] {rank : L → ℕ}

/-- Whatever each thread does next may be done under the locks that it holds. -/
def AllRespect (allowed : List L → L → Prop) (s : T → ThreadState L) : Prop :=
  ∀ i, Respects allowed (s i).held (s i).todo

/-- Whatever each thread does next respects the order. -/
def AllOrdered (rank : L → ℕ) (s : T → ThreadState L) : Prop :=
  ∀ i, Ordered rank (s i).held (s i).todo

lemma allOrdered_iff {s : T → ThreadState L} : AllOrdered rank s ↔ AllRespect (Below rank) s :=
  forall_congr' fun _ => ordered_iff

lemma AllOrdered.rank_lt {s : T → ThreadState L} (hs : AllOrdered rank s) {i : T} {l k : L}
    {t : List (Event L)} (hi : (s i).todo = .acquire k :: t) (hheld : l ∈ (s i).held) :
    rank l < rank k := by
  have hordered := hs i
  rw [hi] at hordered
  exact hordered.1 l hheld

/-- The lock that a waiting thread is about to take ranks below the one that a thread further
along the chain of waiting threads is about to take. -/
lemma rank_lt_of_waitsFor {s : T → ThreadState L} (hs : AllOrdered rank s) {i j : T}
    (h : Relation.TransGen (WaitsFor s) i j) {l k : L} {t u : List (Event L)}
    (hi : (s i).todo = .acquire l :: t) (hj : (s j).todo = .acquire k :: u) : rank l < rank k := by
  induction h generalizing k u with
  | @single j hwait =>
    obtain ⟨l', t', hi', hheld⟩ := hwait
    rw [hi] at hi'
    obtain rfl : l = l' := by simpa using (List.cons.inj hi').1
    exact hs.rank_lt hj hheld
  | @tail b j _ hwait ih =>
    obtain ⟨l', t', hb, hheld⟩ := hwait
    exact Nat.lt_trans (ih hb) (hs.rank_lt hj hheld)

/-- Threads that respect an order of the locks never wait for each other in a circle. -/
theorem not_waitsFor_self {s : T → ThreadState L} (hs : AllOrdered rank s) (i : T) :
    ¬ Relation.TransGen (WaitsFor s) i i := by
  intro h
  obtain ⟨j, ⟨l, t, hi, -⟩, -⟩ := Relation.TransGen.head'_iff.mp h
  exact absurd (rank_lt_of_waitsFor hs h hi hi) (Nat.lt_irrefl _)

end Waiting

section Threads
variable {T : Type*} [DecidableEq T] [DecidableEq L]

/-- A lock is taken when no thread holds it, not even the one that takes it. -/
inductive Step : (T → ThreadState L) → T × Event L → (T → ThreadState L) → Prop
  | acquire {s : T → ThreadState L} {i : T} {l : L} {t : List (Event L)}
      (htodo : (s i).todo = .acquire l :: t) (hfree : ∀ j, l ∉ (s j).held) :
      Step s (i, .acquire l) (Function.update s i ⟨l :: (s i).held, t⟩)
  | release {s : T → ThreadState L} {i : T} {l : L} {t : List (Event L)}
      (htodo : (s i).todo = .release l :: t) :
      Step s (i, .release l) (Function.update s i ⟨(s i).held.erase l, t⟩)

def threads (T L : Type*) [DecidableEq T] [DecidableEq L] :
    System (T → ThreadState L) (T × Event L) := ⟨Step⟩

/-- Each thread at the start of an execution. -/
def start (traces : T → List (Event L)) (i : T) : ThreadState L := ⟨[], traces i⟩

/-- Some interleaving of some executions of the programs leads to the state. An execution that
goes on for ever is seen up to any point: it may as well panic later than that. -/
def Reachable (program : T → Prog L) (s : T → ThreadState L) : Prop :=
  ∃ traces es, (∀ i, ∃ x, Exec (program i) (traces i) x) ∧ (threads T L).Run (start traces) es s

variable {rank : L → ℕ} {allowed : List L → L → Prop}

lemma AllRespect.update {s : T → ThreadState L} (hs : AllRespect allowed s) (i : T)
    {x : ThreadState L} (hx : Respects allowed x.held x.todo) :
    AllRespect allowed (Function.update s i x) := by
  intro j
  by_cases hj : j = i
  · rw [hj, Function.update_self]
    exact hx
  · rw [Function.update_of_ne hj]
    exact hs j

lemma allRespect_step {s s' : T → ThreadState L} {e : T × Event L} (h : Step s e s')
    (hs : AllRespect allowed s) : AllRespect allowed s' := by
  cases h with
  | @acquire i l t htodo _ =>
    have hi := hs i
    rw [htodo] at hi
    exact hs.update i hi.2
  | @release i l t htodo =>
    have hi := hs i
    rw [htodo] at hi
    exact hs.update i hi

lemma allRespect_run {s s' : T → ThreadState L} {es : List (T × Event L)}
    (h : (threads T L).Run s es s') (hs : AllRespect allowed s) : AllRespect allowed s' :=
  h.invariant (fun _ _ _ => allRespect_step) hs

theorem Reachable.allOrdered {program : T → Prog L} {s : T → ThreadState L}
    (hs : Reachable program s) (hprogram : ∀ i, (program i).ordered rank 0 = true) :
    AllOrdered rank s := by
  obtain ⟨traces, es, hexec, hrun⟩ := hs
  refine allOrdered_iff.mpr (allRespect_run hrun fun i => ?_)
  obtain ⟨x, hx⟩ := hexec i
  exact ordered_iff.mp (hx.ordered (hprogram i) fun k hk => absurd hk List.not_mem_nil)

end Threads

end

end PcRemote.LockOrder
