import Mathlib.Data.Set.Card
import IngressGate.Proofs.Run
import IngressGate.Rule.Table
/-!
# Histories of a store of rules

A `Store` is what one sees of rules that are kept in tables: the value of a key, the size of a table
and the replies to requests. A `Lawful` store does on every request what its reply says. From that
it follows, for every history of requests, that the store is a bounded map in which the last write
of a key counts (`Lawful.isBoundedMap`).
-/
namespace IngressGate

/-- A request to a store with keys in `κ`; all rules can be replaced by a content in `γ`. -/
inductive Request (κ γ : Type)
  | insert (key : κ) (value : ProtocolSet)
  | erase (key : κ)
  | replace (content : γ)

/-- The reply to a request. -/
inductive Reply
  | done
  | erased (found : Bool)
  | refused (error : CapacityExceeded)
  deriving DecidableEq, Repr

/-- A request with the reply that it got. -/
abbrev Exchange (κ γ : Type) := Request κ γ × Reply

/-- A store with states in `σ`, whose keys in `κ` belong to tables in `τ`. -/
structure Store (σ κ τ γ : Type) where
  empty : σ
  get? : σ → κ → Option ProtocolSet
  size : σ → τ → Nat
  perform : σ → Request κ γ → Reply × σ
  /-- The table of a key. -/
  table : κ → τ
  /-- The error of a table that is full. -/
  full : τ → CapacityExceeded
  /-- The value that a content gives to a key. -/
  value? : γ → κ → Option ProtocolSet

namespace Store
variable {σ κ τ γ : Type} (S : Store σ κ τ γ)

/-- The number of keys of a table that have a value. -/
noncomputable def count (f : κ → Option ProtocolSet) (t : τ) : Nat :=
  {k | S.table k = t ∧ (f k).isSome}.ncard

/-! ## Histories -/

/-- The state after some requests to the empty store. -/
def after (rs : List (Request κ γ)) : σ := rs.foldl (fun s r => (S.perform s r).2) S.empty

/-- The reply to one more request. -/
def reply (rs : List (Request κ γ)) (r : Request κ γ) : Reply := (S.perform (S.after rs) r).1

/-- The exchanges from a state on. -/
def exchanges : σ → List (Request κ γ) → List (Exchange κ γ)
  | _, [] => []
  | s, r :: rs => (r, (S.perform s r).1) :: exchanges (S.perform s r).2 rs

/-- The exchanges that begin with the empty store. -/
def history (rs : List (Request κ γ)) : List (Exchange κ γ) := S.exchanges S.empty rs

/-- An exchange gives a value to a key. -/
def Writes (k : κ) (v : ProtocolSet) : Exchange κ γ → Prop
  | (.insert k' v', .done) => k' = k ∧ v' = v
  | (.replace c, .done) => S.value? c k = some v
  | _ => False

/-- An exchange makes an end of whatever value a key had before. -/
def Ends (k : κ) : Exchange κ γ → Prop
  | (.insert k' _, .done) => k' = k
  | (.erase k', _) => k' = k
  | (.replace _, .done) => True
  | _ => False

/-- In a history, `v` is the last value that was written to a key, and nothing came after it that
made an end of it. -/
def LastWritten (k : κ) (v : ProtocolSet) (h : List (Exchange κ γ)) : Prop :=
  ∃ older e newer, h = older ++ e :: newer ∧ S.Writes k v e ∧ ∀ e' ∈ newer, ¬ Ends k e'

theorem after_snoc (rs : List (Request κ γ)) (r : Request κ γ) :
    S.after (rs ++ [r]) = (S.perform (S.after rs) r).2 := by simp [after]

theorem exchanges_append (s : σ) (rs rs' : List (Request κ γ)) :
    S.exchanges s (rs ++ rs') =
      S.exchanges s rs ++ S.exchanges (rs.foldl (fun s r => (S.perform s r).2) s) rs' := by
  induction rs generalizing s with
  | nil => rfl
  | cons r rs ih => simp [exchanges, ih]

theorem history_snoc (rs : List (Request κ γ)) (r : Request κ γ) :
    S.history (rs ++ [r]) = S.history rs ++ [(r, S.reply rs r)] :=
  S.exchanges_append S.empty rs [r]

theorem not_lastWritten_nil {k : κ} {v : ProtocolSet} : ¬ S.LastWritten k v [] :=
  Run.not_lasts_nil

/-- One more exchange writes the last value, or leaves the last value as it was. -/
theorem lastWritten_snoc {k : κ} {v : ProtocolSet} {h : List (Exchange κ γ)} {x : Exchange κ γ} :
    S.LastWritten k v (h ++ [x]) ↔ S.Writes k v x ∨ ¬ Ends k x ∧ S.LastWritten k v h :=
  Run.lasts_snoc

/-! ## Laws -/

/-- What a store does on each request, and that its sizes count its keys. -/
structure Lawful [DecidableEq κ] : Prop where
  get?_empty : ∀ k, S.get? S.empty k = none
  finite : ∀ s t, {k | S.table k = t ∧ (S.get? s k).isSome}.Finite
  size_eq : ∀ s t, S.size s t = S.count (S.get? s) t
  size_le : ∀ s t, S.size s t ≤ (S.full t).capacity
  insert_refused : ∀ {s k} v, S.get? s k = none →
    S.size s (S.table k) = (S.full (S.table k)).capacity →
    S.perform s (.insert k v) = (.refused (S.full (S.table k)), s)
  insert_accepted : ∀ {s k} v,
    (S.get? s k).isSome ∨ S.size s (S.table k) < (S.full (S.table k)).capacity →
    ∃ s', S.perform s (.insert k v) = (.done, s') ∧
      ∀ x, S.get? s' x = if x = k then some v else S.get? s x
  erase : ∀ s k, ∃ s', S.perform s (.erase k) = (.erased (S.get? s k).isSome, s') ∧
    ∀ x, S.get? s' x = if x = k then none else S.get? s x
  replace : ∀ s c,
    (∃ s', S.perform s (.replace c) = (.done, s') ∧ (∀ x, S.get? s' x = S.value? c x)) ∨
    ∃ t, S.perform s (.replace c) = (.refused (S.full t), s) ∧
      (S.full t).capacity < S.count (S.value? c) t

/-- A bounded map in which the last write counts, seen through every history of requests. -/
structure IsBoundedMap : Prop where
  /-- A key has the value that was last written to it and that nothing made an end of. -/
  get?_iff : ∀ rs k v, S.get? (S.after rs) k = some v ↔ S.LastWritten k v (S.history rs)
  /-- The size of a table is the number of its keys that have a value. -/
  size_eq : ∀ rs t, S.size (S.after rs) t = S.count (S.get? (S.after rs)) t
  size_le : ∀ rs t, S.size (S.after rs) t ≤ (S.full t).capacity
  /-- Only a key that a full table has not got is refused, in the name of that table. -/
  insert_refused_iff : ∀ rs k v e, S.reply rs (.insert k v) = .refused e ↔
    S.get? (S.after rs) k = none ∧
      S.size (S.after rs) (S.table k) = (S.full (S.table k)).capacity ∧ e = S.full (S.table k)
  /-- Every other key is accepted: one that is there, or one more while there is room. -/
  insert_done_iff : ∀ rs k v, S.reply rs (.insert k v) = .done ↔
    (S.get? (S.after rs) k).isSome ∨
      S.size (S.after rs) (S.table k) < (S.full (S.table k)).capacity
  erase_reply : ∀ rs k, S.reply rs (.erase k) = .erased (S.get? (S.after rs) k).isSome
  /-- After a key was found and erased, its table accepts any key. -/
  insert_after_erase : ∀ rs k, S.reply rs (.erase k) = .erased true →
    ∀ k' v, S.table k' = S.table k → S.reply (rs ++ [.erase k]) (.insert k' v) = .done
  /-- A content is refused exactly if it has too many keys of some table. -/
  replace_done_iff : ∀ rs c, S.reply rs (.replace c) = .done ↔
    ∀ t, S.count (S.value? c) t ≤ (S.full t).capacity
  replace_refused : ∀ rs c e, S.reply rs (.replace c) = .refused e →
    ∃ t, e = S.full t ∧ (S.full t).capacity < S.count (S.value? c) t
  /-- What is refused changes no value and no size. -/
  refused_unchanged : ∀ rs r e, S.reply rs r = .refused e →
    S.get? (S.after (rs ++ [r])) = S.get? (S.after rs) ∧
      S.size (S.after (rs ++ [r])) = S.size (S.after rs)
  /-- A request about one key changes no value and no size in the other tables. -/
  otherTables_unchanged : ∀ rs k r, (r = .erase k ∨ ∃ v, r = .insert k v) →
    (∀ x, S.table x ≠ S.table k → S.get? (S.after (rs ++ [r])) x = S.get? (S.after rs) x) ∧
      ∀ t, t ≠ S.table k → S.size (S.after (rs ++ [r])) t = S.size (S.after rs) t

namespace Lawful
variable {S} [DecidableEq κ]

/-- A table has room for a key, or is full and has not got it. -/
theorem room_or_full (L : S.Lawful) (s : σ) (k : κ) :
    ((S.get? s k).isSome ∨ S.size s (S.table k) < (S.full (S.table k)).capacity) ∨
      S.get? s k = none ∧ S.size s (S.table k) = (S.full (S.table k)).capacity := by
  have hle := L.size_le s (S.table k)
  cases hk : S.get? s k with
  | some v => exact .inl (.inl rfl)
  | none =>
    rcases Nat.lt_or_eq_of_le hle with hlt | hfull
    · exact .inl (.inr hlt)
    · exact .inr ⟨rfl, hfull⟩

/-- The value of a key after a request is the one that the exchange wrote, or the one before it. -/
theorem get?_perform (L : S.Lawful) (s : σ) (r : Request κ γ) (k : κ) (v : ProtocolSet) :
    S.get? (S.perform s r).2 k = some v ↔
      S.Writes k v (r, (S.perform s r).1) ∨
        ¬ Ends k (r, (S.perform s r).1) ∧ S.get? s k = some v := by
  cases r with
  | insert k' v' =>
    rcases L.room_or_full s k' with hroom | ⟨hnone, hfull⟩
    · obtain ⟨s', hs', hget⟩ := L.insert_accepted v' hroom
      rw [hs', hget]
      by_cases hk : k = k'
      · simp [Writes, Ends, hk]
      · simp [Writes, Ends, hk, Ne.symm hk]
    · rw [L.insert_refused v' hnone hfull]
      simp [Writes, Ends]
  | erase k' =>
    obtain ⟨s', hs', hget⟩ := L.erase s k'
    rw [hs', hget]
    by_cases hk : k = k'
    · simp [Writes, Ends, hk]
    · simp [Writes, Ends, hk, Ne.symm hk]
  | replace c =>
    rcases L.replace s c with ⟨s', hs', hget⟩ | ⟨t, hs', -⟩
    · rw [hs', hget]
      simp [Writes, Ends]
    · rw [hs']
      simp [Writes, Ends]

/-- The value of a key is the last one that was written to it. -/
theorem get?_after_iff (L : S.Lawful) (rs : List (Request κ γ)) (k : κ) (v : ProtocolSet) :
    S.get? (S.after rs) k = some v ↔ S.LastWritten k v (S.history rs) := by
  -- What a request does depends on all those before it, so requests are taken off at the end.
  induction rs using List.reverseRecOn with
  | nil =>
    have hempty : S.get? (S.after []) k = none := L.get?_empty k
    simp [hempty, history, exchanges, S.not_lastWritten_nil]
  | append_singleton rs r ih =>
    rw [S.after_snoc, S.history_snoc, S.lastWritten_snoc, L.get?_perform, ih]
    rfl

theorem insert_replies (L : S.Lawful) (s : σ) (k : κ) (v : ProtocolSet) :
    ((S.get? s k).isSome ∨ S.size s (S.table k) < (S.full (S.table k)).capacity) ∧
        (S.perform s (.insert k v)).1 = .done ∨
      (S.get? s k = none ∧ S.size s (S.table k) = (S.full (S.table k)).capacity) ∧
        (S.perform s (.insert k v)).1 = .refused (S.full (S.table k)) := by
  rcases L.room_or_full s k with hroom | ⟨hnone, hfull⟩
  · obtain ⟨s', hs', -⟩ := L.insert_accepted v hroom
    exact .inl ⟨hroom, by rw [hs']⟩
  · exact .inr ⟨⟨hnone, hfull⟩, by rw [L.insert_refused v hnone hfull]⟩

/-- A request that is refused leaves the state as it was. -/
theorem eq_of_refused (L : S.Lawful) {s : σ} {r : Request κ γ} {e : CapacityExceeded}
    (h : (S.perform s r).1 = .refused e) : (S.perform s r).2 = s := by
  cases r with
  | insert k v =>
    rcases L.insert_replies s k v with ⟨-, hdone⟩ | ⟨⟨hnone, hfull⟩, -⟩
    · rw [hdone] at h
      cases h
    · rw [L.insert_refused v hnone hfull]
  | erase k =>
    obtain ⟨s', hs', -⟩ := L.erase s k
    rw [hs'] at h
    cases h
  | replace c =>
    rcases L.replace s c with ⟨s', hs', -⟩ | ⟨t, hs', -⟩
    · rw [hs'] at h
      cases h
    · rw [hs']

/-- Requests about one key leave the value of every other key as it was. -/
theorem get?_perform_of_ne (L : S.Lawful) {s : σ} {k x : κ} {r : Request κ γ}
    (hr : r = .erase k ∨ ∃ v, r = .insert k v) (hx : x ≠ k) :
    S.get? (S.perform s r).2 x = S.get? s x := by
  ext v
  rw [L.get?_perform]
  rcases hr with rfl | ⟨w, rfl⟩
  · simp [Writes, Ends, Ne.symm hx]
  · rcases L.insert_replies s k w with ⟨-, hdone⟩ | ⟨-, hrefused⟩
    · simp [hdone, Writes, Ends, Ne.symm hx]
    · simp [hrefused, Writes, Ends]

theorem size_congr (L : S.Lawful) {s s' : σ} {t : τ}
    (h : ∀ x, S.table x = t → S.get? s' x = S.get? s x) : S.size s' t = S.size s t := by
  rw [L.size_eq, L.size_eq, count, count]
  congr 1
  ext x
  exact and_congr_right fun hx => by rw [h x hx]

/-- A key that is found and erased makes room in its table. -/
theorem size_erase_lt (L : S.Lawful) {s : σ} {k : κ} (h : (S.get? s k).isSome) :
    S.size (S.perform s (.erase k)).2 (S.table k) < S.size s (S.table k) := by
  obtain ⟨s', hs', hget⟩ := L.erase s k
  rw [hs', L.size_eq, L.size_eq]
  -- The keys that are left are among those before, and `k` is not among them any more.
  refine Set.ncard_lt_ncard (Set.ssubset_iff_exists.mpr ⟨fun x hx => ?_, k, ⟨rfl, h⟩, ?_⟩)
    (L.finite s (S.table k))
  · obtain ⟨htable, hsome⟩ := hx
    rw [hget] at hsome
    split at hsome
    · cases hsome
    · exact ⟨htable, hsome⟩
  · rintro ⟨-, hsome⟩
    simp [hget] at hsome

theorem replace_done_iff (L : S.Lawful) (s : σ) (c : γ) :
    (S.perform s (.replace c)).1 = .done ↔
      ∀ t, S.count (S.value? c) t ≤ (S.full t).capacity := by
  rcases L.replace s c with ⟨s', hs', hget⟩ | ⟨t, hs', hlarge⟩
  · have hfits : ∀ t, S.count (S.value? c) t ≤ (S.full t).capacity := fun t => by
      rw [← funext hget, ← L.size_eq]
      exact L.size_le s' t
    simp [hs', hfits]
  · have hlarge' : ¬ ∀ t, S.count (S.value? c) t ≤ (S.full t).capacity := fun h =>
      Nat.not_le_of_lt hlarge (h t)
    simp [hs', hlarge']

/-- A lawful store is a bounded map over every history. -/
theorem isBoundedMap (L : S.Lawful) : S.IsBoundedMap where
  get?_iff := L.get?_after_iff
  size_eq rs := L.size_eq (S.after rs)
  size_le rs := L.size_le (S.after rs)
  insert_refused_iff rs k v e := by
    rw [reply]
    rcases L.insert_replies (S.after rs) k v with ⟨hroom, hdone⟩ | ⟨⟨hnone, hfull⟩, hrefused⟩
    · rw [hdone]
      refine iff_of_false (by simp) ?_
      rintro ⟨hnone, hfull, -⟩
      rcases hroom with hsome | hlt
      · simp [hnone] at hsome
      · omega
    · simp [hrefused, hnone, hfull, eq_comm]
  insert_done_iff rs k v := by
    rw [reply]
    rcases L.insert_replies (S.after rs) k v with ⟨hroom, hdone⟩ | ⟨⟨hnone, hfull⟩, hrefused⟩
    · exact iff_of_true hdone hroom
    · simp [hrefused, hnone, hfull]
  erase_reply rs k := by
    obtain ⟨s', hs', -⟩ := L.erase (S.after rs) k
    rw [reply, hs']
  insert_after_erase rs k herased k' v htable := by
    obtain ⟨s', hs', -⟩ := L.erase (S.after rs) k
    have hfound : (S.get? (S.after rs) k).isSome = true := by
      rw [reply, hs'] at herased
      exact Reply.erased.inj herased
    have hlt : S.size (S.after (rs ++ [.erase k])) (S.table k') <
        (S.full (S.table k')).capacity := by
      rw [S.after_snoc, htable]
      exact Nat.lt_of_lt_of_le (L.size_erase_lt hfound) (L.size_le _ _)
    obtain ⟨s'', hs'', -⟩ := L.insert_accepted v (.inr hlt)
    rw [reply, hs'']
  replace_done_iff rs := L.replace_done_iff (S.after rs)
  replace_refused rs c e h := by
    rcases L.replace (S.after rs) c with ⟨s', hs', -⟩ | ⟨t, hs', hlarge⟩
    · rw [reply, hs'] at h
      cases h
    · rw [reply, hs'] at h
      exact ⟨t, (Reply.refused.inj h).symm, hlarge⟩
  refused_unchanged rs r e h := by
    rw [S.after_snoc, L.eq_of_refused h]
    exact ⟨rfl, rfl⟩
  otherTables_unchanged rs k r hr := by
    have hother : ∀ x, S.table x ≠ S.table k →
        S.get? (S.after (rs ++ [r])) x = S.get? (S.after rs) x := fun x hx => by
      rw [S.after_snoc]
      exact L.get?_perform_of_ne hr fun h => hx (congrArg S.table h)
    exact ⟨hother, fun t ht => L.size_congr fun x hx => hother x (hx ▸ ht)⟩

end Lawful

end Store

end IngressGate
