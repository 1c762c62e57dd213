import Deprecation.Proofs.Reading.Fields
import Deprecation.Toml.Reader

/-!
The tables of a document that was read have pairwise different keys, those that are values of other
tables or items of arrays included.  Whatever reads a part of a document keeps that: a table in the
making refuses a second entry of one key, and putting moments in the places of their tables leaves
the keys as they are.
-/

namespace Deprecation.Toml

/-- The keys of the entries are pairwise different, and what they hold is as said. -/
structure Distinct {α : Type} (Holds : α → Prop) (entries : List (String × α)) : Prop where
  keys : (entries.map Prod.fst).Nodup
  values : ∀ entry ∈ entries, Holds entry.2

def IsScalar : Toml → Prop
  | array _ => False
  | table _ => False
  | _ => True

/-- Every table in the value has pairwise different keys. -/
inductive HasDistinctKeys : Toml → Prop
  | scalar {value : Toml} (h : value.IsScalar) : HasDistinctKeys value
  | array {items : List Toml} (h : ∀ item ∈ items, HasDistinctKeys item) :
      HasDistinctKeys (array items)
  | table {entries : List (String × Toml)} (hkeys : (entries.map Prod.fst).Nodup)
      (h : ∀ entry ∈ entries, HasDistinctKeys entry.2) : HasDistinctKeys (table entries)

/-- Every table in the making has pairwise different keys, and so has every table in the values. -/
inductive Node.HasDistinctKeys : Node → Prop
  | value {value : Toml} (h : value.HasDistinctKeys) : HasDistinctKeys (.value value)
  | table {origin : Origin} {entries : Entries} (hkeys : (entries.map Prod.fst).Nodup)
      (h : ∀ entry ∈ entries, HasDistinctKeys entry.2) : HasDistinctKeys (.table origin entries)
  | tables {elements : List Entries}
      (hkeys : ∀ entries ∈ elements, (entries.map Prod.fst).Nodup)
      (h : ∀ entries ∈ elements, ∀ entry ∈ entries, HasDistinctKeys entry.2) :
      HasDistinctKeys (.tables elements)

abbrev Entries.HasDistinctKeys (entries : Entries) : Prop :=
  Distinct Node.HasDistinctKeys entries

section

variable {α : Type} {Holds : α → Prop} {entries : List (String × α)} {key : String} {value : α}

theorem distinct_nil : Distinct Holds [] :=
  ⟨List.nodup_nil, List.forall_mem_nil _⟩

theorem Distinct.append (h : Distinct Holds entries) (hkey : entries.lookup key = none)
    (hvalue : Holds value) : Distinct Holds (entries ++ [(key, value)]) where
  keys := by
    rw [List.map_append]
    refine h.keys.append (List.nodup_singleton key) ?_
    exact List.disjoint_singleton.mpr (Decoding.lookup_eq_none_iff.mp hkey)
  values := List.forall_mem_append.mpr ⟨h.values, List.forall_mem_singleton.mpr hvalue⟩

theorem Distinct.filter (h : Distinct Holds entries) (keeps : String × α → Bool) :
    Distinct Holds (entries.filter keeps) where
  keys := (List.filter_sublist.map Prod.fst).nodup h.keys
  values entry hentry := h.values entry (List.mem_of_mem_filter hentry)

theorem Distinct.of_lookup (h : Distinct Holds entries) (hvalue : entries.lookup key = some value) :
    Holds value :=
  h.values (key, value) ((Decoding.lookup_eq_some_iff h.keys).mp hvalue)

end

namespace Entries

variable {entries changed : Entries} {key : String} {path : List String}

theorem HasDistinctKeys.put (h : entries.HasDistinctKeys) {node : Node}
    (hnode : node.HasDistinctKeys) : (entries.put key node).HasDistinctKeys := by
  rw [Entries.put]
  split
  · refine ⟨?_, List.forall_mem_map.mpr fun entry hentry => ?_⟩
    · rw [List.map_map, List.map_congr_left fun entry _ => ?_]
      · exact h.keys
      · dsimp only [Function.comp_apply]
        split
        · next hkey => exact (beq_iff_eq.mp hkey).symm
        · rfl
    · split
      · exact hnode
      · exact h.values entry hentry
  · next hnone =>
      refine h.append (Decoding.lookup_eq_none_iff.mpr ?_) hnode
      intro hmem
      obtain ⟨entry, hentry, rfl⟩ := List.mem_map.mp hmem
      exact hnone (List.any_eq_true.mpr ⟨entry, hentry, beq_self_eq_true entry.1⟩)

theorem HasDistinctKeys.change {origin : Origin} {edit : Bool → Entries → Option Entries}
    (hedit : ∀ {byDots before after}, before.HasDistinctKeys → edit byDots before = some after →
      after.HasDistinctKeys) {byDots : Bool} (h : entries.HasDistinctKeys)
    (hchange : Entries.change origin edit path byDots entries = some changed) :
    changed.HasDistinctKeys := by
  -- each key of the path leads into a table that has different keys by itself
  induction path generalizing byDots entries changed with
  | nil => exact hedit h hchange
  | cons key path ih =>
      rw [Entries.change] at hchange
      cases hlookup : entries.lookup key with
      | none =>
          rw [hlookup] at hchange
          obtain ⟨inner, hinner, hput⟩ := Option.bind_eq_some_iff.mp hchange
          obtain rfl := Option.some.inj hput
          have hinner := ih distinct_nil hinner
          exact h.put (.table hinner.keys hinner.values)
      | some node =>
          have hnode := h.of_lookup hlookup
          rw [hlookup] at hchange
          cases hnode with
          | value hvalue => cases hchange
          | @table made inner hkeys hvalues =>
              dsimp only at hchange
              split at hchange
              · cases hchange
              · obtain ⟨inner, hinner, hput⟩ := Option.bind_eq_some_iff.mp hchange
                obtain rfl := Option.some.inj hput
                have hinner := ih ⟨hkeys, hvalues⟩ hinner
                exact h.put (.table hinner.keys hinner.values)
          | @tables elements hkeys hvalues =>
              obtain ⟨last, hlast, hchange⟩ := Option.bind_eq_some_iff.mp hchange
              obtain ⟨inner, hinner, hput⟩ := Option.bind_eq_some_iff.mp hchange
              obtain rfl := Option.some.inj hput
              have hlast := List.mem_of_getLast? hlast
              have hinner := ih ⟨hkeys last hlast, hvalues last hlast⟩ hinner
              refine h.put (.tables ?_ ?_)
              · refine List.forall_mem_append.mpr ⟨fun element helement => ?_, ?_⟩
                · exact hkeys element ((List.dropLast_sublist elements).subset helement)
                · exact List.forall_mem_singleton.mpr hinner.keys
              · refine List.forall_mem_append.mpr ⟨fun element helement => ?_, ?_⟩
                · exact hvalues element ((List.dropLast_sublist elements).subset helement)
                · exact List.forall_mem_singleton.mpr hinner.values

theorem HasDistinctKeys.addValue {value : Toml} (hvalue : value.HasDistinctKeys)
    (h : entries.HasDistinctKeys) (hadd : entries.addValue path key value = some changed) :
    changed.HasDistinctKeys := by
  refine h.change ?_ hadd
  intro byDots before after hbefore hafter
  split at hafter
  · cases hafter
  · split at hafter
    · cases hafter
    · next hkey =>
        obtain rfl := Option.some.inj hafter
        exact hbefore.append (Option.not_isSome_iff_eq_none.mp hkey) (.value hvalue)

theorem HasDistinctKeys.addTable (h : entries.HasDistinctKeys)
    (hadd : entries.addTable path key = some changed) : changed.HasDistinctKeys := by
  refine h.change ?_ hadd
  intro byDots before after hbefore hafter
  split at hafter
  · next hkey =>
      obtain rfl := Option.some.inj hafter
      exact hbefore.append hkey (.table List.nodup_nil (List.forall_mem_nil _))
  · next inner hinner =>
      obtain rfl := Option.some.inj hafter
      cases hbefore.of_lookup hinner with
      | table hkeys hvalues =>
          -- the entry of the key is taken out first, so that its new one is the only one
          refine (hbefore.filter _).append (Decoding.lookup_eq_none_iff.mpr ?_)
            (.table hkeys hvalues)
          intro hmem
          obtain ⟨entry, hentry, rfl⟩ := List.mem_map.mp hmem
          simpa using (List.mem_filter.mp hentry).2
  · cases hafter

theorem HasDistinctKeys.addElement (h : entries.HasDistinctKeys)
    (hadd : entries.addElement path key = some changed) : changed.HasDistinctKeys := by
  refine h.change ?_ hadd
  intro byDots before after hbefore hafter
  split at hafter
  · next hkey =>
      obtain rfl := Option.some.inj hafter
      refine hbefore.append hkey (.tables ?_ ?_)
      · exact List.forall_mem_singleton.mpr List.nodup_nil
      · exact List.forall_mem_singleton.mpr (List.forall_mem_nil _)
  · next elements helements =>
      obtain rfl := Option.some.inj hafter
      cases hbefore.of_lookup helements with
      | tables hkeys hvalues =>
          refine hbefore.put (.tables ?_ ?_)
          · exact List.forall_mem_append.mpr
              ⟨hkeys, List.forall_mem_singleton.mpr List.nodup_nil⟩
          · exact List.forall_mem_append.mpr
              ⟨hvalues, List.forall_mem_singleton.mpr (List.forall_mem_nil _)⟩
  · cases hafter

theorem HasDistinctKeys.addBelow {header : List String} {value : Toml}
    (hvalue : value.HasDistinctKeys) (h : entries.HasDistinctKeys)
    (hadd : entries.addBelow header path key value = some changed) : changed.HasDistinctKeys :=
  h.change (fun hbefore hafter => hbefore.addValue hvalue hafter) hadd

end Entries

theorem entriesToToml_eq_map (entries : Entries) :
    entriesToToml entries = entries.map fun entry => (entry.1, entry.2.toToml) := by
  induction entries with
  | nil => rfl
  | cons entry rest ih => rw [entriesToToml, ih, List.map_cons]

theorem elementsToToml_eq_map (elements : List Entries) :
    elementsToToml elements = elements.map fun entries => .table (entriesToToml entries) := by
  induction elements with
  | nil => rfl
  | cons entries rest ih => rw [elementsToToml, ih, List.map_cons]

theorem map_fst_entriesToToml (entries : Entries) :
    (entriesToToml entries).map Prod.fst = entries.map Prod.fst := by
  rw [entriesToToml_eq_map, List.map_map]
  rfl

theorem hasDistinctKeys_entriesToToml {entries : Entries}
    (hkeys : (entries.map Prod.fst).Nodup)
    (h : ∀ entry ∈ entries, entry.2.toToml.HasDistinctKeys) :
    (table (entriesToToml entries)).HasDistinctKeys := by
  refine .table ((map_fst_entriesToToml entries).symm ▸ hkeys) ?_
  rw [entriesToToml_eq_map]
  exact List.forall_mem_map.mpr h

theorem Node.HasDistinctKeys.toToml {node : Node} (h : node.HasDistinctKeys) :
    node.toToml.HasDistinctKeys := by
  induction h with
  | value hvalue => exact hvalue
  | table hkeys hvalues ih => exact hasDistinctKeys_entriesToToml hkeys ih
  | @tables elements hkeys hvalues ih =>
      refine .array ?_
      rw [elementsToToml_eq_map]
      exact List.forall_mem_map.mpr fun entries hentries =>
        hasDistinctKeys_entriesToToml (hkeys entries hentries) (ih entries hentries)

theorem Entries.HasDistinctKeys.toToml {entries : Entries} (h : entries.HasDistinctKeys) :
    (table (entriesToToml entries)).HasDistinctKeys :=
  hasDistinctKeys_entriesToToml h.keys fun entry hentry => (h.values entry hentry).toToml

theorem isScalar_of_some {read value : Toml} {after rest : List Char}
    (h : some (read, after) = some (value, rest)) (hread : read.IsScalar) : value.IsScalar := by
  obtain ⟨rfl, -⟩ := Prod.mk.inj (Option.some.inj h)
  exact hread

theorem isScalar_of_readNamedFloat? {text rest : List Char} {value : Toml}
    (h : readNamedFloat? text = some (value, rest)) : value.IsScalar := by
  unfold readNamedFloat? at h
  dsimp only at h
  split at h
  · exact isScalar_of_some h trivial
  · exact isScalar_of_some h trivial
  · cases h

theorem isScalar_of_readFloat {text rest : List Char} {value : Toml}
    (h : readFloat text = .found value rest) : value.IsScalar := by
  have hfinish : ∀ {number after}, finishFloat number after = .found value rest →
      value.IsScalar := by
    intro number after hfound
    unfold finishFloat at hfound
    split at hfound
    · cases hfound
    · obtain ⟨rfl, -⟩ := Attempt.found.inj hfound
      trivial
  unfold readFloat at h
  dsimp only at h
  repeat' split at h
  all_goals first
    | exact hfinish h
    | cases h

theorem isScalar_of_readInBase? {base : Nat} {isDigit : Char → Bool} {text rest : List Char}
    {value : Toml} (h : readInBase? base isDigit text = some (value, rest)) : value.IsScalar := by
  obtain ⟨digits, -, h⟩ := Option.bind_eq_some_iff.mp h
  dsimp only at h
  split at h
  · exact isScalar_of_some h trivial
  · cases h

theorem isScalar_of_readInteger? {text rest : List Char} {value : Toml}
    (h : readInteger? text = some (value, rest)) : value.IsScalar := by
  unfold readInteger? at h
  split at h
  · exact isScalar_of_readInBase? h
  · exact isScalar_of_readInBase? h
  · exact isScalar_of_readInBase? h
  · split at h
    obtain ⟨digits, -, h⟩ := Option.bind_eq_some_iff.mp h
    dsimp only at h
    split at h
    · split at h
      · exact isScalar_of_some h trivial
      · cases h
    · split at h
      · exact isScalar_of_some h trivial
      · cases h

theorem isScalar_of_readScalar? {text rest : List Char} {value : Toml}
    (h : readScalar? text = some (value, rest)) : value.IsScalar := by
  unfold readScalar? at h
  split at h
  · cases h
  · exact isScalar_of_some h trivial
  · split at h
    · cases h
    · next hfloat => exact isScalar_of_some h (isScalar_of_readFloat hfloat)
    · rcases Option.or_eq_some_iff.mp h with hnamed | ⟨-, hinteger⟩
      · exact isScalar_of_readNamedFloat? hnamed
      · exact isScalar_of_readInteger? hinteger

/-- What the readers of values answer with so much fuel has different keys. -/
structure ReadsDistinct (fuel : Nat) : Prop where
  value : ∀ {depth text value rest}, readValue? fuel depth text = some (value, rest) →
    value.HasDistinctKeys
  items : ∀ {depth items text value rest}, (∀ item ∈ items, item.HasDistinctKeys) →
    readItems? fuel depth items text = some (value, rest) → value.HasDistinctKeys
  entries : ∀ {depth entries text value rest}, entries.HasDistinctKeys →
    readEntries? fuel depth entries text = some (value, rest) → value.HasDistinctKeys

section

variable {fuel depth : Nat} {text rest : List Char} {value : Toml}

theorem ReadsDistinct.value_succ (hfuel : ReadsDistinct fuel)
    (h : readValue? (fuel + 1) depth text = some (value, rest)) : value.HasDistinctKeys := by
  unfold readValue? at h
  split at h
  · cases h
  · obtain ⟨_, -, h⟩ := Option.map_eq_some_iff.mp h
    obtain ⟨rfl, -⟩ := Prod.mk.inj h
    exact .scalar trivial
  · obtain ⟨_, -, h⟩ := Option.map_eq_some_iff.mp h
    obtain ⟨rfl, -⟩ := Prod.mk.inj h
    exact .scalar trivial
  · split at h
    · cases h
    · obtain ⟨next, -, h⟩ := Option.bind_eq_some_iff.mp h
      split at h
      · obtain ⟨rfl, -⟩ := Prod.mk.inj (Option.some.inj h)
        exact .array (List.forall_mem_nil _)
      · exact hfuel.items (List.forall_mem_nil _) h
  · split at h
    · cases h
    · split at h
      · obtain ⟨rfl, -⟩ := Prod.mk.inj (Option.some.inj h)
        exact .table List.nodup_nil (List.forall_mem_nil _)
      · exact hfuel.entries distinct_nil h
  · exact .scalar (isScalar_of_some h trivial)
  · exact .scalar (isScalar_of_some h trivial)
  · split at h
    · exact .scalar (isScalar_of_readNamedFloat? h)
    · split at h
      · exact .scalar (isScalar_of_readScalar? h)
      · cases h

theorem ReadsDistinct.items_succ (hfuel : ReadsDistinct fuel) {items : List Toml}
    (hitems : ∀ item ∈ items, item.HasDistinctKeys)
    (h : readItems? (fuel + 1) depth items text = some (value, rest)) : value.HasDistinctKeys := by
  rw [readItems?] at h
  obtain ⟨⟨item, after⟩, hitem, h⟩ := Option.bind_eq_some_iff.mp h
  obtain ⟨next, -, h⟩ := Option.bind_eq_some_iff.mp h
  have hread : ∀ other ∈ item :: items, other.HasDistinctKeys :=
    List.forall_mem_cons.mpr ⟨hfuel.value hitem, hitems⟩
  have hclosed : (array (item :: items).reverse).HasDistinctKeys :=
    .array fun other hother => hread other (List.mem_reverse.mp hother)
  split at h
  · obtain ⟨rfl, -⟩ := Prod.mk.inj (Option.some.inj h)
    exact hclosed
  · obtain ⟨next, -, h⟩ := Option.bind_eq_some_iff.mp h
    split at h
    · obtain ⟨rfl, -⟩ := Prod.mk.inj (Option.some.inj h)
      exact hclosed
    · exact hfuel.items hread h
  · cases h

theorem ReadsDistinct.entries_succ (hfuel : ReadsDistinct fuel) {entries : Entries}
    (hentries : entries.HasDistinctKeys)
    (h : readEntries? (fuel + 1) depth entries text = some (value, rest)) :
    value.HasDistinctKeys := by
  rw [readEntries?] at h
  obtain ⟨⟨⟨path, key⟩, after⟩, -, h⟩ := Option.bind_eq_some_iff.mp h
  obtain ⟨⟨read, rest⟩, hread, h⟩ := Option.bind_eq_some_iff.mp h
  obtain ⟨changed, hchanged, h⟩ := Option.bind_eq_some_iff.mp h
  have hchanged := hentries.addValue (hfuel.value hread) hchanged
  split at h
  · obtain ⟨rfl, -⟩ := Prod.mk.inj (Option.some.inj h)
    exact hchanged.toToml
  · exact hfuel.entries hchanged h
  · cases h

theorem readsDistinct (fuel : Nat) : ReadsDistinct fuel := by
  induction fuel with
  | zero => exact ⟨nofun, nofun, nofun⟩
  | succ fuel ih => exact ⟨ih.value_succ, ih.items_succ, ih.entries_succ⟩

end

theorem hasDistinctKeys_of_readStatement? {fuel : Nat} {progress after : Progress}
    {text rest : List Char} (h : progress.entries.HasDistinctKeys)
    (hread : readStatement? fuel progress text = some (after, rest)) :
    after.entries.HasDistinctKeys := by
  unfold readStatement? at hread
  split at hread
  · obtain ⟨_, -, hread⟩ := Option.map_eq_some_iff.mp hread
    obtain ⟨rfl, -⟩ := Prod.mk.inj hread
    exact h
  · obtain ⟨⟨parts, _⟩, -, hread⟩ := Option.bind_eq_some_iff.mp hread
    obtain ⟨⟨path, key⟩, -, hread⟩ := Option.bind_eq_some_iff.mp hread
    dsimp only at hread
    split at hread
    · obtain ⟨changed, hchanged, hread⟩ := Option.bind_eq_some_iff.mp hread
      obtain ⟨_, -, hread⟩ := Option.bind_eq_some_iff.mp hread
      obtain ⟨rfl, -⟩ := Prod.mk.inj (Option.some.inj hread)
      exact h.addElement hchanged
    · cases hread
  · obtain ⟨⟨parts, _⟩, -, hread⟩ := Option.bind_eq_some_iff.mp hread
    obtain ⟨⟨path, key⟩, -, hread⟩ := Option.bind_eq_some_iff.mp hread
    dsimp only at hread
    split at hread
    · obtain ⟨changed, hchanged, hread⟩ := Option.bind_eq_some_iff.mp hread
      obtain ⟨_, -, hread⟩ := Option.bind_eq_some_iff.mp hread
      obtain ⟨rfl, -⟩ := Prod.mk.inj (Option.some.inj hread)
      exact h.addTable hchanged
    · cases hread
  · obtain ⟨⟨⟨path, key⟩, _⟩, -, hread⟩ := Option.bind_eq_some_iff.mp hread
    obtain ⟨⟨value, _⟩, hvalue, hread⟩ := Option.bind_eq_some_iff.mp hread
    obtain ⟨changed, hchanged, hread⟩ := Option.bind_eq_some_iff.mp hread
    obtain ⟨_, -, hread⟩ := Option.bind_eq_some_iff.mp hread
    obtain ⟨rfl, -⟩ := Prod.mk.inj (Option.some.inj hread)
    exact h.addBelow ((readsDistinct fuel).value hvalue) hchanged

theorem hasDistinctKeys_of_readStatements? {fuel : Nat} {progress final : Progress}
    {text : List Char} (h : progress.entries.HasDistinctKeys)
    (hread : readStatements? fuel progress text = some final) : final.entries.HasDistinctKeys := by
  induction fuel generalizing progress text with
  | zero => cases hread
  | succ fuel ih =>
      rw [readStatements?] at hread
      split at hread
      · exact Option.some.inj hread ▸ h
      · split at hread
        · exact ih h hread
        · obtain ⟨⟨after, rest⟩, hstatement, hread⟩ := Option.bind_eq_some_iff.mp hread
          exact ih (hasDistinctKeys_of_readStatement? h hstatement) hread

theorem exists_of_mem_resolveItems {items resolved : List Toml}
    (h : resolveItems items = some resolved) {item : Toml} (hitem : item ∈ resolved) :
    ∃ given ∈ items, resolve given = some item := by
  induction items generalizing resolved with
  | nil =>
      obtain rfl := Option.some.inj h
      cases hitem
  | cons given rest ih =>
      rw [resolveItems] at h
      obtain ⟨first, hfirst, h⟩ := Option.bind_eq_some_iff.mp h
      obtain ⟨others, hothers, h⟩ := Option.bind_eq_some_iff.mp h
      obtain rfl := Option.some.inj h
      rcases List.mem_cons.mp hitem with rfl | hitem
      · exact ⟨given, List.mem_cons_self, hfirst⟩
      · obtain ⟨other, hother, hsame⟩ := ih hothers hitem
        exact ⟨other, List.mem_cons_of_mem given hother, hsame⟩

theorem exists_of_mem_resolveEntries {entries resolved : List (String × Toml)}
    (h : resolveEntries entries = some resolved) {entry : String × Toml}
    (hentry : entry ∈ resolved) : ∃ given ∈ entries, resolve given.2 = some entry.2 := by
  induction entries generalizing resolved with
  | nil =>
      obtain rfl := Option.some.inj h
      cases hentry
  | cons given rest ih =>
      obtain ⟨key, value⟩ := given
      rw [resolveEntries] at h
      obtain ⟨first, hfirst, h⟩ := Option.bind_eq_some_iff.mp h
      obtain ⟨others, hothers, h⟩ := Option.bind_eq_some_iff.mp h
      obtain rfl := Option.some.inj h
      rcases List.mem_cons.mp hentry with rfl | hentry
      · exact ⟨(key, value), List.mem_cons_self, hfirst⟩
      · obtain ⟨other, hother, hsame⟩ := ih hothers hentry
        exact ⟨other, List.mem_cons_of_mem (key, value) hother, hsame⟩

theorem resolve_table {entries : List (String × Toml)} {resolved : Toml}
    (h : resolve (table entries) = some resolved) :
    resolved.IsScalar ∨
      ∃ others, resolveEntries entries = some others ∧ resolved = table others := by
  rcases entries with _ | ⟨⟨key, value⟩, rest⟩
  · exact Or.inr ⟨[], rfl, (Option.some.inj h).symm⟩
  · change (if key = momentKey then _ else _) = _ at h
    split at h
    · obtain ⟨_, -, rfl⟩ := Option.map_eq_some_iff.mp h
      exact Or.inl trivial
    · obtain ⟨first, hfirst, h⟩ := Option.bind_eq_some_iff.mp h
      obtain ⟨others, hothers, h⟩ := Option.bind_eq_some_iff.mp h
      refine Or.inr ⟨_, ?_, (Option.some.inj h).symm⟩
      rw [resolveEntries, hfirst, hothers]
      rfl

theorem hasDistinctKeys_table_of_resolveEntries {entries resolved : List (String × Toml)}
    (hkeys : (entries.map Prod.fst).Nodup)
    (h : ∀ entry ∈ entries, ∀ {value}, resolve entry.2 = some value → value.HasDistinctKeys)
    (hresolve : resolveEntries entries = some resolved) : (table resolved).HasDistinctKeys := by
  refine .table (map_fst_of_resolveEntries hresolve ▸ hkeys) fun entry hentry => ?_
  obtain ⟨given, hgiven, hsame⟩ := exists_of_mem_resolveEntries hresolve hentry
  exact h given hgiven hsame

theorem HasDistinctKeys.of_resolve {value : Toml} (h : value.HasDistinctKeys) {resolved : Toml}
    (hresolve : resolve value = some resolved) : resolved.HasDistinctKeys := by
  induction h generalizing resolved with
  | @scalar value hscalar =>
      cases value with
      | array items => exact hscalar.elim
      | table entries => exact hscalar.elim
      | _ => exact Option.some.inj hresolve ▸ .scalar trivial
  | @array items hitems ih =>
      obtain ⟨others, hothers, rfl⟩ := Option.map_eq_some_iff.mp hresolve
      refine .array fun item hitem => ?_
      obtain ⟨given, hgiven, hsame⟩ := exists_of_mem_resolveItems hothers hitem
      exact ih given hgiven hsame
  | @table entries hkeys hvalues ih =>
      rcases resolve_table hresolve with hscalar | ⟨others, hothers, rfl⟩
      · exact .scalar hscalar
      · exact hasDistinctKeys_table_of_resolveEntries hkeys ih hothers

theorem hasDistinctKeys_of_read? {text : String} {entries : List (String × Toml)}
    (h : read? text = some entries) : (table entries).HasDistinctKeys := by
  obtain ⟨progress, hprogress, hresolve⟩ := Option.bind_eq_some_iff.mp h
  have hread := hasDistinctKeys_of_readStatements? distinct_nil hprogress
  cases hread.toToml with
  | scalar hscalar => exact hscalar.elim
  | table hkeys hvalues =>
      exact hasDistinctKeys_table_of_resolveEntries hkeys
        (fun entry hentry {_} => (hvalues entry hentry).of_resolve) hresolve

theorem nodup_of_lookup {text : String} {entries fields : List (String × Toml)}
    (h : read? text = some entries) {key : String}
    (hfields : entries.lookup key = some (table fields)) : (fields.map Prod.fst).Nodup := by
  cases hasDistinctKeys_of_read? h with
  | scalar hscalar => exact hscalar.elim
  | table hkeys hvalues =>
      cases hvalues (key, table fields) ((Decoding.lookup_eq_some_iff hkeys).mp hfields) with
      | scalar hscalar => exact hscalar.elim
      | table hkeys hvalues => exact hkeys

end Deprecation.Toml
