import Mathlib.Algebra.Group.Nat.Defs
import SocksGateway.Tunnel

/-!
# The names and the numbers of tunnels

Tunnels are asked for by name and told apart by number.  A registry is offered one tunnel
after the other and refuses some of them; whatever it was offered, its names and its numbers
tell the same tunnels apart.

* `Accepts`, `add_eq_ok_iff`: what a registry takes, and what becomes of it.
* `offerAll`: the registry after any offers.
* `Ordered`: numbers go by the place and names are distinct; `Ordered.offer` is one offer,
  `ordered_offerAll` any number of them.
* `names_identify_tunnels`: what that means for adding tunnels and for looking names up.
-/

namespace SocksGateway

namespace TunnelRegistry

variable {r r' : TunnelRegistry} {spec : TunnelSpec} {c d : ChainedTunnel} {name other : String}
  {t u : Tunnel}

/-! ### One offer -/

/-- **What a registry takes**: a name that is neither built in nor registered, with a port. -/
structure Accepts (r : TunnelRegistry) (spec : TunnelSpec) : Prop where
  notDirect : spec.name ≠ Tunnel.directName
  notNull : spec.name ≠ Tunnel.nullName
  isNew : ∀ c ∈ r.chained, c.name ≠ spec.name
  hasPort : spec.socksPort ≠ 0

/-- The tunnel that an offer becomes. -/
def next (r : TunnelRegistry) (spec : TunnelSpec) : ChainedTunnel :=
  ⟨Tunnel.firstChainedId + r.chained.length, spec.name, spec.socksPort, spec.command⟩

theorem refusal?_eq_none_iff : r.refusal? spec = none ↔ r.Accepts spec := by
  unfold refusal?
  constructor
  · intro h
    by_cases hReserved : spec.name = Tunnel.directName ∨ spec.name = Tunnel.nullName
    · simp [hReserved] at h
    by_cases hTaken : (r.chained.any fun t => t.name == spec.name) = true
    · simp [hReserved, hTaken] at h
    by_cases hPort : spec.socksPort = 0
    · simp [hReserved, hTaken, hPort] at h
    obtain ⟨hDirect, hNull⟩ := not_or.mp hReserved
    refine ⟨hDirect, hNull, fun c hc hSame => ?_, hPort⟩
    exact hTaken (List.any_eq_true.mpr ⟨c, hc, beq_iff_eq.mpr hSame⟩)
  · intro h
    have hReserved : ¬ (spec.name = Tunnel.directName ∨ spec.name = Tunnel.nullName) :=
      not_or.mpr ⟨h.notDirect, h.notNull⟩
    have hNew : ¬ (r.chained.any fun t => t.name == spec.name) = true := by
      intro hTaken
      obtain ⟨c, hc, hSame⟩ := List.any_eq_true.mp hTaken
      exact h.isNew c hc (beq_iff_eq.mp hSame)
    rw [if_neg hReserved, if_neg hNew, if_neg h.hasPort]

/-- **What a registry takes is added behind the others.** -/
theorem add_eq_ok_iff :
    r.add spec = .ok r' ↔ r.Accepts spec ∧ r' = ⟨r.chained ++ [r.next spec]⟩ := by
  rw [← refusal?_eq_none_iff, add]
  cases r.refusal? spec with
  | none => simp [next, eq_comm]
  | some fault => simp

/-! ### Looking names up -/

theorem lookup_eq_some_iff : r.lookup name = some t ↔
    (name = Tunnel.directName ∧ t = .direct) ∨ (name = Tunnel.nullName ∧ t = .null) ∨
      (name ≠ Tunnel.directName ∧ name ≠ Tunnel.nullName ∧
        ∃ c, r.chained.find? (fun t => t.name == name) = some c ∧ t = .chained c) := by
  unfold lookup
  by_cases hDirect : name = Tunnel.directName
  · have hNull : ¬ Tunnel.directName = Tunnel.nullName := by decide
    simp [hDirect, hNull, eq_comm]
  by_cases hNull : name = Tunnel.nullName
  · have hDirect' : ¬ Tunnel.nullName = Tunnel.directName := by decide
    simp [hNull, hDirect', eq_comm]
  · rw [if_neg hDirect, if_neg hNull, Option.map_eq_some_iff]
    simp [hDirect, hNull, eq_comm]

theorem mem_of_find (h : r.chained.find? (fun t => t.name == name) = some c) :
    c ∈ r.chained ∧ c.name = name :=
  ⟨List.mem_of_find?_eq_some h, by simpa using List.find?_some h⟩

theorem name_of_lookup (h : r.lookup name = some t) : t.name = name := by
  rcases lookup_eq_some_iff.mp h with ⟨rfl, rfl⟩ | ⟨rfl, rfl⟩ | ⟨-, -, c, hFound, rfl⟩
  · rfl
  · rfl
  · exact (mem_of_find hFound).2

theorem exists_lookup_iff : (∃ t, r.lookup name = some t) ↔
    name = Tunnel.directName ∨ name = Tunnel.nullName ∨ ∃ c ∈ r.chained, c.name = name := by
  constructor
  · rintro ⟨t, h⟩
    rcases lookup_eq_some_iff.mp h with ⟨hDirect, -⟩ | ⟨hNull, -⟩ | ⟨-, -, c, hFound, -⟩
    · exact .inl hDirect
    · exact .inr (.inl hNull)
    · exact .inr (.inr ⟨c, mem_of_find hFound⟩)
  · intro h
    by_cases hDirect : name = Tunnel.directName
    · exact ⟨_, lookup_eq_some_iff.mpr (.inl ⟨hDirect, rfl⟩)⟩
    by_cases hNull : name = Tunnel.nullName
    · exact ⟨_, lookup_eq_some_iff.mpr (.inr (.inl ⟨hNull, rfl⟩))⟩
    obtain ⟨c, hc, hName⟩ := (h.resolve_left hDirect).resolve_left hNull
    have hSome : (r.chained.find? fun t => t.name == name).isSome = true :=
      List.find?_isSome.mpr ⟨c, hc, beq_iff_eq.mpr hName⟩
    obtain ⟨d, hFound⟩ := Option.isSome_iff_exists.mp hSome
    exact ⟨_, lookup_eq_some_iff.mpr (.inr (.inr ⟨hDirect, hNull, d, hFound, rfl⟩))⟩

/-- A tunnel that can be found in the registry. -/
inductive Known (r : TunnelRegistry) : Tunnel → Prop
  | direct : Known r .direct
  | null : Known r .null
  | chained {c : ChainedTunnel} (hc : c ∈ r.chained) : Known r (.chained c)

theorem known_of_lookup (h : r.lookup name = some t) : Known r t := by
  rcases lookup_eq_some_iff.mp h with ⟨-, rfl⟩ | ⟨-, rfl⟩ | ⟨-, -, c, hFound, rfl⟩
  · exact .direct
  · exact .null
  · exact .chained (mem_of_find hFound).1

theorem lookup_concat_of_ne (h : c.name ≠ name) :
    lookup ⟨r.chained ++ [c]⟩ name = r.lookup name := by
  have hNot : (c.name == name) = false := beq_false_of_ne h
  have hLast : [c].find? (fun t => t.name == name) = none := by simp [hNot]
  simp only [lookup, List.find?_append, hLast, Option.or_none]

/-- A tunnel that has been taken is found. -/
theorem Accepts.lookup_next (h : r.Accepts spec) :
    lookup ⟨r.chained ++ [r.next spec]⟩ spec.name = some (.chained (r.next spec)) := by
  have hNone : r.chained.find? (fun t => t.name == spec.name) = none :=
    List.find?_eq_none.mpr fun c hc => by simpa using h.isNew c hc
  have hFound : (r.chained ++ [r.next spec]).find? (fun t => t.name == spec.name) =
      some (r.next spec) := by
    simp [List.find?_append, hNone, next]
  exact lookup_eq_some_iff.mpr (.inr (.inr ⟨h.notDirect, h.notNull, _, hFound, rfl⟩))

/-! ### Any offers -/

/-- Offers a tunnel to the registry, which stays as it is if it refuses. -/
def offer (r : TunnelRegistry) (spec : TunnelSpec) : TunnelRegistry :=
  match r.add spec with
  | .ok r' => r'
  | .error _ => r

/-- The registry after these offers; at first it is empty. -/
def offerAll (specs : List TunnelSpec) : TunnelRegistry := specs.foldl offer {}

theorem offer_of_ok (h : r.add spec = .ok r') : r.offer spec = r' := by
  rw [offer, h]

theorem foldl_offer_of_addAll {specs : List TunnelSpec} (h : r.addAll specs = .ok r') :
    specs.foldl offer r = r' := by
  induction specs generalizing r with
  | nil => exact Except.ok.inj h
  | cons spec specs ih =>
    rw [addAll] at h
    cases hAdd : r.add spec with
    | error fault =>
      rw [hAdd] at h
      cases h
    | ok next =>
      rw [hAdd] at h
      rw [List.foldl_cons, offer_of_ok hAdd]
      exact ih h

/-- **Numbers go by the place, and no two tunnels have one name.** -/
structure Ordered (r : TunnelRegistry) : Prop where
  number : ∀ i c, r.chained[i]? = some c → c.id = Tunnel.firstChainedId + i
  distinct : (r.chained.map ChainedTunnel.name).Nodup

/-- **One offer keeps the order**, whether it is taken or refused. -/
theorem Ordered.offer (h : Ordered r) (spec : TunnelSpec) : Ordered (r.offer spec) := by
  cases hAdd : r.add spec with
  | error fault =>
    rw [TunnelRegistry.offer, hAdd]
    exact h
  | ok r' =>
    rw [offer_of_ok hAdd]
    obtain ⟨hAccepts, rfl⟩ := add_eq_ok_iff.mp hAdd
    constructor
    · intro i c hc
      rcases Nat.lt_trichotomy i r.chained.length with hOld | rfl | hOut
      · rw [List.getElem?_append_left hOld] at hc
        exact h.number i c hc
      · rw [List.getElem?_concat_length] at hc
        obtain rfl := Option.some.inj hc
        rfl
      · rw [List.getElem?_eq_none (by simp; omega)] at hc
        cases hc
    · rw [List.map_append, List.map_singleton]
      refine List.nodup_append.mpr ⟨h.distinct, by simp, ?_⟩
      intro name hTaken other hNew hSame
      obtain ⟨c, hc, rfl⟩ := List.mem_map.mp hTaken
      exact hAccepts.isNew c hc (hSame.trans (List.mem_singleton.mp hNew))

theorem ordered_offerAll (specs : List TunnelSpec) : Ordered (offerAll specs) := by
  have hRun : ∀ r, Ordered r → Ordered (specs.foldl TunnelRegistry.offer r) := by
    induction specs with
    | nil => exact fun r h => h
    | cons spec specs ih => exact fun r h => ih _ (h.offer spec)
  exact hRun {} ⟨fun i c hc => by simp at hc, List.nodup_nil⟩

namespace Ordered

theorem eq_of_id (h : Ordered r) (hc : c ∈ r.chained) (hd : d ∈ r.chained) (hId : c.id = d.id) :
    c = d := by
  obtain ⟨i, hi⟩ := List.getElem?_of_mem hc
  obtain ⟨j, hj⟩ := List.getElem?_of_mem hd
  have hNumber := h.number i c hi
  have hNumber' := h.number j d hj
  obtain rfl : i = j := by omega
  exact Option.some.inj (hi.symm.trans hj)

theorem le_id (h : Ordered r) (hc : c ∈ r.chained) : Tunnel.firstChainedId ≤ c.id := by
  obtain ⟨i, hi⟩ := List.getElem?_of_mem hc
  have hNumber := h.number i c hi
  omega

/-- Two tunnels of a registry that have one number are one tunnel. -/
theorem eq_of_known (h : Ordered r) (ht : Known r t) (hu : Known r u) (hId : t.id = u.id) :
    t = u := by
  have hApart {c : ChainedTunnel} {builtIn : Tunnel} (hc : c ∈ r.chained)
      (hLow : builtIn.id < 2) : builtIn.id ≠ (Tunnel.chained c).id :=
    Nat.ne_of_lt (Nat.lt_of_lt_of_le hLow (h.le_id hc))
  cases ht with
  | direct =>
    cases hu with
    | direct => rfl
    | null => cases hId
    | chained hd => exact absurd hId (hApart hd (by decide))
  | null =>
    cases hu with
    | direct => cases hId
    | null => rfl
    | chained hd => exact absurd hId (hApart hd (by decide))
  | chained hc =>
    cases hu with
    | direct => exact absurd hId.symm (hApart hc (by decide))
    | null => exact absurd hId.symm (hApart hc (by decide))
    | chained hd => rw [h.eq_of_id hc hd hId]

end Ordered

/-- **Names identify tunnels.**  Whatever a registry was offered: it takes exactly the names
that are neither built in nor registered, with a port; a refusal leaves it as it was, and what
it takes is found from then on and does not change what is found by other names.  The tunnels
are numbered from two on by their places, which fits into 32 bits for less than `2 ^ 32 - 2` of
them.  So what is found are the built-in names and the registered ones, always as a tunnel of
that name, and two tunnels that are found are the same, by their numbers, exactly when their
names are.  Adding tunnels until one is refused is a case of this. -/
theorem names_identify_tunnels (specs : List TunnelSpec) :
    let r := offerAll specs
    (∀ spec, (∃ r', r.add spec = .ok r') ↔
        spec.name ≠ "direct" ∧ spec.name ≠ "null" ∧ (∀ c ∈ r.chained, c.name ≠ spec.name) ∧
          spec.socksPort ≠ 0) ∧
      (∀ spec fault, r.add spec = .error fault → r.offer spec = r) ∧
      (∀ spec r', r.add spec = .ok r' → r.offer spec = r' ∧
        (∃ c, r'.lookup spec.name = some (.chained c) ∧ c.socksPort = spec.socksPort ∧
          c.command = spec.command) ∧
        ∀ name, name ≠ spec.name → r'.lookup name = r.lookup name) ∧
      (∀ i c, r.chained[i]? = some c →
        c.id = 2 + i ∧ (r.chained.length < 2 ^ 32 - 2 → c.id < 2 ^ 32)) ∧
      (∀ name, (∃ t, r.lookup name = some t) ↔
        name = "direct" ∨ name = "null" ∨ ∃ c ∈ r.chained, c.name = name) ∧
      (∀ name t, r.lookup name = some t → t.name = name) ∧
      (∀ name other t u, r.lookup name = some t → r.lookup other = some u →
        (t.same u = true ↔ name = other)) ∧
      ∀ r', ofSpecs specs = .ok r' → r' = r := by
  intro r
  have hOrdered : Ordered r := ordered_offerAll specs
  refine ⟨fun spec => ?_, fun spec fault hAdd => ?_, fun spec r' hAdd => ?_, fun i c hc => ?_,
    fun name => exists_lookup_iff, fun name t => name_of_lookup, fun name other t u ht hu => ?_,
    fun r' hAll => (foldl_offer_of_addAll hAll).symm⟩
  · constructor
    · rintro ⟨r', hAdd⟩
      have hAccepts := (add_eq_ok_iff.mp hAdd).1
      exact ⟨hAccepts.notDirect, hAccepts.notNull, hAccepts.isNew, hAccepts.hasPort⟩
    · rintro ⟨hDirect, hNull, hNew, hPort⟩
      exact ⟨_, add_eq_ok_iff.mpr ⟨⟨hDirect, hNull, hNew, hPort⟩, rfl⟩⟩
  · rw [offer, hAdd]
  · refine ⟨offer_of_ok hAdd, ?_⟩
    obtain ⟨hAccepts, rfl⟩ := add_eq_ok_iff.mp hAdd
    exact ⟨⟨r.next spec, hAccepts.lookup_next, rfl, rfl⟩,
      fun name hOther => lookup_concat_of_ne hOther.symm⟩
  · have hNumber : c.id = 2 + i := hOrdered.number i c hc
    have hPlace := (List.getElem?_eq_some_iff.mp hc).1
    exact ⟨hNumber, fun hFew => by omega⟩
  · constructor
    · intro hSame
      have hEq := hOrdered.eq_of_known (known_of_lookup ht) (known_of_lookup hu)
        (beq_iff_eq.mp hSame)
      rw [← name_of_lookup ht, hEq, name_of_lookup hu]
    · rintro rfl
      obtain rfl := Option.some.inj (ht.symm.trans hu)
      exact beq_self_eq_true t.id

/-- Of four offers two are refused, and the others are numbered one behind the other. -/
example :
    let r := offerAll [⟨"a", 1081, none⟩, ⟨"null", 1082, none⟩, ⟨"a", 1083, none⟩,
      ⟨"b", 1084, some "relay"⟩]
    r.chained = [⟨2, "a", 1081, none⟩, ⟨3, "b", 1084, some "relay"⟩] ∧
      r.lookup "b" = some (.chained ⟨3, "b", 1084, some "relay"⟩) := by
  decide

end TunnelRegistry

end SocksGateway
