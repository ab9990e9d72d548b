/-!
# Stores of sessions by key

A store keeps open sessions under keys. Who asks for a session is served by one that is open under
their key, if the store has one to give, or by a new one; who has no key is not served. Which of
the open sessions can still be used is left to the environment. Two are served by one session in
some run exactly when they have the same key.
-/

namespace KeyedPool

variable {κ ρ : Type} [DecidableEq κ]

/-- The key of each session that was opened, and who was served by which. -/
structure Store (κ ρ : Type) where
  sessions : List κ
  served : List (ρ × Nat)

def Store.empty : Store κ ρ := ⟨[], []⟩

/-- Someone asks for a session; the environment may have an open one for them. -/
structure Request (ρ : Type) where
  who : ρ
  usable : Option Nat

/-- Serve one that is open under the key, or open one. -/
def Store.serve (store : Store κ ρ) (who : ρ) (key : κ) (usable : Option Nat) : Store κ ρ :=
  match usable.filter fun id => store.sessions[id]? = some key with
  | some id => { store with served := store.served ++ [(who, id)] }
  | none => ⟨store.sessions ++ [key], store.served ++ [(who, store.sessions.length)]⟩

variable (keyOf : ρ → Option κ)

def Store.step (store : Store κ ρ) (request : Request ρ) : Store κ ρ :=
  match keyOf request.who with
  | none => store
  | some key => store.serve request.who key request.usable

def Store.run (requests : List (Request ρ)) : Store κ ρ :=
  requests.foldl (Store.step keyOf) .empty

/-- Some run serves both by one session. -/
def Shares (first second : ρ) : Prop :=
  ∃ requests id, (first, id) ∈ (Store.run keyOf requests).served ∧
    (second, id) ∈ (Store.run keyOf requests).served

variable {keyOf}

/-- Whoever is served has the key of the session. -/
def Store.Sound (keyOf : ρ → Option κ) (store : Store κ ρ) : Prop :=
  ∀ who id, (who, id) ∈ store.served → ∃ key, keyOf who = some key ∧ store.sessions[id]? = some key

theorem Store.Sound.step {store : Store κ ρ} (sound : store.Sound keyOf) (request : Request ρ) :
    (store.step keyOf request).Sound keyOf := by
  unfold Store.step
  cases keyed : keyOf request.who with
  | none => exact sound
  | some key =>
    simp only [Store.serve]
    split
    · rename_i id found
      have opened : store.sessions[id]? = some key := by
        have filtered := (Option.filter_eq_some_iff.mp found).2
        simpa using filtered
      intro who other member
      rcases List.mem_append.mp member with before | new
      · exact sound who other before
      · cases List.mem_singleton.mp new
        exact ⟨key, keyed, opened⟩
    · intro who other member
      rcases List.mem_append.mp member with before | new
      · obtain ⟨old, kept, opened⟩ := sound who other before
        have inside := (List.getElem?_eq_some_iff.mp opened).1
        exact ⟨old, kept, (List.getElem?_append_left inside).trans opened⟩
      · cases List.mem_singleton.mp new
        exact ⟨key, keyed, by simp⟩

theorem Store.Sound.foldl {store : Store κ ρ} (sound : store.Sound keyOf)
    (requests : List (Request ρ)) : (requests.foldl (Store.step keyOf) store).Sound keyOf := by
  induction requests generalizing store with
  | nil => exact sound
  | cons request requests ih => exact ih (sound.step request)

/-- Two share a session exactly when they have the same key. -/
theorem shares_iff {first second : ρ} :
    Shares keyOf first second ↔ ∃ key, keyOf first = some key ∧ keyOf second = some key := by
  constructor
  · rintro ⟨requests, id, served, alsoServed⟩
    have sound : (Store.run keyOf requests).Sound keyOf := by
      apply Store.Sound.foldl
      intro who id member
      cases member
    obtain ⟨key, keyed, opened⟩ := sound first id served
    obtain ⟨other, alsoKeyed, alsoOpened⟩ := sound second id alsoServed
    cases opened.symm.trans alsoOpened
    exact ⟨key, keyed, alsoKeyed⟩
  · rintro ⟨key, keyed, alsoKeyed⟩
    -- the first opens a session, the second is given it
    refine ⟨[⟨first, none⟩, ⟨second, some 0⟩], 0, ?_⟩
    have given : (some 0).filter (fun id => [key][id]? = some key) = some 0 := by
      simp [Option.filter]
    simp [Store.run, Store.step, keyed, alsoKeyed, Store.serve, Store.empty, given]

end KeyedPool
