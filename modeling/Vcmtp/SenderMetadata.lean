import Vcmtp.Basic
import Mathlib.Data.List.Nodup

/-!
# The retransmission table `senderMetadata`

Only the header `senderMetadata.h` is among the sources; its methods are modelled from
the spec (§4.4). The table is `indexMetaMap : std::map<uint32_t, RetxMetadata*>`, so an
entry is found by its `prodindex` and keys are unique: `SenderMetadata` carries that as
its `nodup` field, and every operation keeps it.

* `getMetadata p` — the entry of `p`, if present;
* `addRetxMetadata m` — insert `m` under the key `m.prodindex`;
* `rmRetxMetadata p` — remove the entry of `p`, returning whether it was present;
* `clearUnfinishedSet p sock` — take `sock` out of the entry's unfinished set and, if the
  set is then empty, remove the entry and return `true`.

The rest of the development reasons about the table only through the lemmas below, which
describe each operation by the key set it leaves (`mem_keys_*`) and the entry it finds
(`getMetadata_*`).
-/

namespace Vcmtp

/-- Modelled from the spec: `senderMetadata::indexMetaMap`, keyed by `prodindex`. -/
structure SenderMetadata where
  entries : List RetxMetadata
  nodup : (entries.map (·.prodindex)).Nodup

namespace SenderMetadata

instance : DecidableEq SenderMetadata := fun a b =>
  decidable_of_iff (a.entries = b.entries) (by cases a; cases b; simp)

/-- The empty table of a new sender. -/
def empty : SenderMetadata := ⟨[], List.nodup_nil⟩

/-- The product indices that have an entry. -/
def keys (t : SenderMetadata) : List Nat := t.entries.map (·.prodindex)

/-- The table without the entry of `p`. -/
def erase (t : SenderMetadata) (p : Nat) : SenderMetadata :=
  ⟨t.entries.filter (·.prodindex ≠ p),
    t.nodup.sublist ((List.filter_sublist _).map _)⟩

/-- Modelled from the spec: `getMetadata`, the entry of `prodindex` or none. -/
def getMetadata (t : SenderMetadata) (prodindex : Nat) : Option RetxMetadata :=
  t.entries.find? (·.prodindex = prodindex)

/-- Modelled from the spec: `addRetxMetadata`, inserting under `m.prodindex`. -/
def addRetxMetadata (t : SenderMetadata) (m : RetxMetadata) : SenderMetadata :=
  ⟨m :: (t.erase m.prodindex).entries, by
    refine List.nodup_cons.2 ⟨?_, (t.erase m.prodindex).nodup⟩
    simp [erase]⟩

/-- Modelled from the spec: `rmRetxMetadata`, true iff the entry was present. -/
def rmRetxMetadata (t : SenderMetadata) (prodindex : Nat) : Bool × SenderMetadata :=
  (decide (prodindex ∈ t.keys), t.erase prodindex)

/-- Modelled from the spec: `clearUnfinishedSet`. The receiver leaves the entry's
    unfinished set; an entry whose set is then empty is removed, and only then is the
    result true. An absent entry gives false. -/
def clearUnfinishedSet (t : SenderMetadata) (prodindex sock : Nat) :
    Bool × SenderMetadata :=
  match t.getMetadata prodindex with
  | none => (false, t)
  | some m =>
    let rest := m.unfinReceivers.filter (· ≠ sock)
    if rest.isEmpty then t.rmRetxMetadata prodindex
    else (false, t.addRetxMetadata { m with unfinReceivers := rest })

/-! ## Keys -/

@[simp] theorem keys_empty : empty.keys = [] := rfl

@[simp] theorem mem_keys_erase {t : SenderMetadata} {p q : Nat} :
    q ∈ (t.erase p).keys ↔ q ≠ p ∧ q ∈ t.keys := by
  simp only [keys, erase, List.mem_map, List.mem_filter, decide_eq_true_eq]
  constructor
  · rintro ⟨m, ⟨hm, hp⟩, rfl⟩; exact ⟨hp, m, hm, rfl⟩
  · rintro ⟨hp, m, hm, rfl⟩; exact ⟨m, ⟨hm, hp⟩, rfl⟩

@[simp] theorem mem_keys_addRetxMetadata {t : SenderMetadata} {m : RetxMetadata} {q : Nat} :
    q ∈ (t.addRetxMetadata m).keys ↔ q = m.prodindex ∨ q ∈ t.keys := by
  have h : q ∈ (t.erase m.prodindex).keys ↔ _ := mem_keys_erase
  simp only [keys, addRetxMetadata, List.map_cons, List.mem_cons] at h ⊢
  rw [h]; by_cases hq : q = m.prodindex <;> simp [hq]

@[simp] theorem rmRetxMetadata_fst {t : SenderMetadata} {p : Nat} :
    (t.rmRetxMetadata p).1 = decide (p ∈ t.keys) := rfl

@[simp] theorem rmRetxMetadata_snd {t : SenderMetadata} {p : Nat} :
    (t.rmRetxMetadata p).2 = t.erase p := rfl

/-! ## Lookup -/

theorem getMetadata_prodindex {t : SenderMetadata} {p : Nat} {m : RetxMetadata}
    (h : t.getMetadata p = some m) : m.prodindex = p := by
  simpa using List.find?_some h

theorem getMetadata_isSome {t : SenderMetadata} {p : Nat} :
    (t.getMetadata p).isSome ↔ p ∈ t.keys := by
  simp [getMetadata, keys, List.find?_isSome]

theorem getMetadata_eq_none {t : SenderMetadata} {p : Nat} :
    t.getMetadata p = none ↔ p ∉ t.keys := by
  rw [← getMetadata_isSome, Option.not_isSome_iff_eq_none]

/-- A lookup finds what the last insertion under that key stored. -/
@[simp] theorem getMetadata_addRetxMetadata_self {t : SenderMetadata} {m : RetxMetadata} :
    (t.addRetxMetadata m).getMetadata m.prodindex = some m := by
  simp [getMetadata, addRetxMetadata]

/-- Removing `p` leaves every other entry where it was. -/
theorem getMetadata_erase {t : SenderMetadata} {p q : Nat} :
    (t.erase p).getMetadata q = if q = p then none else t.getMetadata q := by
  unfold getMetadata erase
  split
  · subst_vars; simp
  · simp only [List.find?_filter]
    congr 1; funext x; simp only [decide_eq_true_eq, Bool.decide_and]
    by_cases hx : x.prodindex = q <;> simp [hx, *]

/-- Inserting `m` replaces the entry of its index and leaves the others. -/
theorem getMetadata_addRetxMetadata {t : SenderMetadata} {m : RetxMetadata} {q : Nat} :
    (t.addRetxMetadata m).getMetadata q =
      if q = m.prodindex then some m else t.getMetadata q := by
  have h := getMetadata_erase (t := t) (p := m.prodindex) (q := q)
  unfold getMetadata at h ⊢
  split
  · subst_vars; simp [addRetxMetadata]
  · rename_i hq
    simp only [addRetxMetadata, List.find?_cons, Ne.symm hq, decide_False]
    simpa [hq] using h

/-! ## `clearUnfinishedSet` -/

/-- `clearUnfinishedSet p sock` touches only the entry of `p`: `sock` leaves its unfinished
    set, and the entry goes if the set is then empty. -/
theorem getMetadata_clearUnfinishedSet {t : SenderMetadata} {p sock q : Nat} :
    (t.clearUnfinishedSet p sock).2.getMetadata q =
      if q = p then (t.getMetadata p).bind fun m =>
        if (m.unfinReceivers.filter (· ≠ sock)).isEmpty then none
        else some { m with unfinReceivers := m.unfinReceivers.filter (· ≠ sock) }
      else t.getMetadata q := by
  unfold clearUnfinishedSet
  cases hm : t.getMetadata p with
  | none => by_cases hq : q = p <;> simp [hq, hm]
  | some m =>
    have hmp := getMetadata_prodindex hm
    cases h : (m.unfinReceivers.filter (· ≠ sock)).isEmpty <;> by_cases hq : q = p <;>
      simp only [h, hq, if_true, if_false, Bool.false_eq_true, Option.some_bind, rmRetxMetadata,
        getMetadata_erase, getMetadata_addRetxMetadata, hmp, hm]

/-- `clearUnfinishedSet` returns true exactly when it removed a present entry, and
    otherwise keeps the key set. -/
theorem clearUnfinishedSet_spec (t : SenderMetadata) (p sock : Nat) :
    ((t.clearUnfinishedSet p sock).1 = true ∧ p ∈ t.keys ∧
        (t.clearUnfinishedSet p sock).2 = t.erase p) ∨
      ((t.clearUnfinishedSet p sock).1 = false ∧
        ∀ q, q ∈ (t.clearUnfinishedSet p sock).2.keys ↔ q ∈ t.keys) := by
  unfold clearUnfinishedSet
  split
  · exact .inr ⟨rfl, fun _ => Iff.rfl⟩
  · rename_i m hm
    have hp : p ∈ t.keys := getMetadata_isSome.1 (by simp [hm])
    have hmp := getMetadata_prodindex hm
    dsimp only
    split
    · exact .inl ⟨by simp [hp], hp, rfl⟩
    · refine .inr ⟨rfl, fun q => ?_⟩
      simp only [mem_keys_addRetxMetadata, hmp]
      constructor
      · rintro (rfl | hq) <;> assumption
      · exact .inr

end SenderMetadata

end Vcmtp
