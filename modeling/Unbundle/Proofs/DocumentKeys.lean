-- SUMMARY: A document that is read denotes a table in which no key stands twice.
import Unbundle.Toml.Table

/-!
# Keys of a document

The table that a document denotes is built line by line. Every step adds a new key to it, changes the
value of a key, or takes a key out for a while, so no key comes to stand in it twice
(`nodup_keys_ofDocument`). Only the keys of the document itself matter here, not those of tables below
it.
-/

namespace Unbundle.Toml

/-- What follows a step that has given a result. -/
theorem exists_of_bind_eq_ok {ε α β : Type} {r : Except ε α} {f : α → Except ε β} {b : β}
    (h : (r >>= f) = .ok b) : ∃ a, r = .ok a ∧ f a = .ok b := by
  cases r with
  | error e => cases h
  | ok a => exact ⟨a, rfl, h⟩

theorem exists_of_map_eq_ok {ε α β : Type} {r : Except ε α} {g : α → β} {b : β}
    (h : g <$> r = .ok b) : ∃ a, r = .ok a ∧ g a = b := by
  cases r with
  | error e => cases h
  | ok a => exact ⟨a, rfl, Except.ok.inj h⟩

namespace Table

variable {α : Type} {t t' : Table}

/-- The keys of a table, in order. -/
def keys (t : Table) : List String :=
  t.entries.map (·.1.name)

theorem notMem_keys_of_find? {name : String} (h : (t.find? name).isNone) : name ∉ t.keys := by
  intro hmem
  obtain ⟨e, he, hname⟩ := List.mem_map.1 hmem
  rw [find?, Option.isNone_iff_eq_none, List.find?_eq_none] at h
  exact h e he (by simpa using hname)

theorem nodup_put (h : t.keys.Nodup) (key : Key) (span : Span) (value : Value) :
    (t.put key span value).keys.Nodup := by
  unfold put
  split
  · have hkeys : (t.entries.map fun e => if e.1.name == key.name then (e.1, span, value) else e).map
        (·.1.name) = t.keys := by
      rw [List.map_map]
      apply List.map_congr_left
      intro e _
      simp only [Function.comp]
      split <;> rfl
    rw [keys, hkeys]
    exact h
  · rename_i hfind
    have hnew : key.name ∉ t.keys := notMem_keys_of_find? (by simpa using hfind)
    have hkeys : (t.entries ++ [(key, span, value)]).map (·.1.name) = t.keys ++ [key.name] :=
      List.map_append
    rw [keys, hkeys]
    exact List.nodup_append.2 ⟨h, by simp, by simpa using fun a ha => ne_of_mem_of_not_mem ha hnew⟩

theorem nodup_erase (h : t.keys.Nodup) (name : String) : (t.erase name).keys.Nodup :=
  List.Sublist.nodup (List.Sublist.map _ List.filter_sublist) h

/-- A visit below a table puts the value of one of its keys; a visit to the table itself does what it
does. -/
theorem nodup_visitAt {dotted : Bool} {f : Table → Except Problem (α × Table)} {path : List Key} {a : α}
    (hf : ∀ {t a t'}, f t = .ok (a, t') → t.keys.Nodup → t'.keys.Nodup)
    (h : visitAt dotted f path t = .ok (a, t')) (ht : t.keys.Nodup) : t'.keys.Nodup := by
  cases path with
  | nil => exact hf h ht
  | cons key path =>
    rw [visitAt] at h
    split at h
    · obtain ⟨⟨_, made⟩, -, h⟩ := exists_of_bind_eq_ok h
      cases h
      exact nodup_put ht _ _ _
    · split at h
      · cases h
      · split at h
        · cases h
        · obtain ⟨⟨_, changed⟩, -, h⟩ := exists_of_bind_eq_ok h
          cases h
          exact nodup_put ht _ _ _
    · split at h
      · obtain ⟨⟨_, changed⟩, -, h⟩ := exists_of_bind_eq_ok h
        cases h
        exact nodup_put ht _ _ _
      · cases h
    · cases h

theorem nodup_modifyAt {dotted : Bool} {f : Table → Except Problem Table} {path : List Key}
    (hf : ∀ {t t'}, f t = .ok t' → t.keys.Nodup → t'.keys.Nodup)
    (h : modifyAt dotted f path t = .ok t') (ht : t.keys.Nodup) : t'.keys.Nodup := by
  obtain ⟨⟨_, _⟩, hvisit, rfl⟩ := exists_of_map_eq_ok h
  refine nodup_visitAt (fun {t a t'} hok hnodup => ?_) hvisit ht
  obtain ⟨changed, hchanged, heq⟩ := exists_of_map_eq_ok hok
  cases heq
  exact hf hchanged hnodup

theorem nodup_add {dotted : Bool} {key : Key} {span : Span} {value : Value}
    (h : add dotted key span value t = .ok t') (ht : t.keys.Nodup) : t'.keys.Nodup := by
  unfold add at h
  split at h
  · cases h
  · cases h
    exact nodup_put ht _ _ _

theorem nodup_addPair {path : List Key} {key : Key} {span : Span} {value : Value}
    (h : t.addPair path key span value = .ok t') (ht : t.keys.Nodup) : t'.keys.Nodup :=
  nodup_modifyAt nodup_add h ht

end Table

namespace Draft

/-- No key stands twice among those that are in place, nor among those of a document without headers
so far. -/
structure Distinct (d : Draft) : Prop where
  root : d.root.keys.Nodup
  current : d.header = none → d.current.keys.Nodup

variable {d d' : Draft}

theorem distinct_empty : empty.Distinct where
  root := List.nodup_nil
  current _ := List.nodup_nil

theorem nodup_finish {t : Table} (hd : d.Distinct) (h : d.finish = .ok t) : t.keys.Nodup := by
  unfold finish at h
  split at h
  · rename_i hheader
    cases h
    exact hd.current hheader
  · refine Table.nodup_modifyAt (fun {parent t'} hput hparent => ?_) h hd.root
    split at hput
    · split at hput
      · cases hput
        exact Table.nodup_put hparent _ _ _
      · cases hput
        exact Table.nodup_put hparent _ _ _
      · cases hput
    · cases hput
      exact Table.nodup_put hparent _ _ _

theorem nodup_takeImplied {key : Key} {parent parent' : Table} {entries : List Entry}
    (h : takeImplied key parent = .ok (entries, parent')) (hparent : parent.keys.Nodup) :
    parent'.keys.Nodup := by
  unfold takeImplied at h
  split at h
  · cases h
    exact hparent
  · cases h
    exact Table.nodup_erase hparent _
  · cases h

theorem distinct_start {root : Table} {header : Header} (hroot : root.keys.Nodup)
    (h : start root header = .ok d) : d.Distinct := by
  unfold start at h
  split at h
  · cases h
    exact ⟨hroot, nofun⟩
  · obtain ⟨⟨entries, root'⟩, hvisit, h⟩ := exists_of_bind_eq_ok h
    cases h
    exact ⟨Table.nodup_visitAt nodup_takeImplied hvisit hroot, nofun⟩

/-- A line keeps the keys apart. -/
theorem Distinct.addLine {line : Line} (hd : d.Distinct) (h : d.addLine line = .ok d') :
    d'.Distinct := by
  cases line with
  | pair key item =>
    obtain ⟨⟨path, last⟩, -, h⟩ := exists_of_bind_eq_ok h
    obtain ⟨value, -, h⟩ := exists_of_bind_eq_ok h
    obtain ⟨current, hadd, h⟩ := exists_of_bind_eq_ok h
    cases h
    exact ⟨hd.root, fun hheader => Table.nodup_addPair hadd (hd.current hheader)⟩
  | header isArray key span =>
    obtain ⟨root, hfinish, h⟩ := exists_of_bind_eq_ok h
    obtain ⟨⟨path, last⟩, -, h⟩ := exists_of_bind_eq_ok h
    exact distinct_start (nodup_finish hd hfinish) h

theorem Distinct.addLines {lines : List Line} (hd : d.Distinct)
    (h : lines.foldlM Draft.addLine d = .ok d') : d'.Distinct := by
  induction lines generalizing d with
  | nil =>
    cases h
    exact hd
  | cons line lines ih =>
    rw [List.foldlM_cons] at h
    obtain ⟨mid, hline, h⟩ := exists_of_bind_eq_ok h
    exact ih (hd.addLine hline) h

end Draft

/-- No key stands twice in the table that a document denotes. -/
theorem Table.nodup_keys_ofDocument {document : String} {t : Table}
    (h : Table.ofDocument document = .ok t) : t.keys.Nodup := by
  obtain ⟨lines, -, h⟩ := exists_of_bind_eq_ok h
  obtain ⟨d, hlines, hfinish⟩ := exists_of_bind_eq_ok h
  exact Draft.nodup_finish (Draft.distinct_empty.addLines hlines) hfinish

end Unbundle.Toml
