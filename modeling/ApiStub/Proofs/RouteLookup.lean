import ApiStub.Proofs.RouteBuild
import ApiStub.Random.SplitMix
import ApiStub.Route.Lookup

/-!
# Looking up is scanning

A table keeps the positions of each method's entries beside the entries. `Indexed` is the invariant
that ties the two: positions ascend, stay in range, and name the entries of the method and no
others. Pushing keeps it, so every table that was put together by pushing has it, and looking up a
request there gives what a scan through all the entries gives.

The entry that says that the server is alive is pushed last, so it is found for its own path unless
an operation takes that path first.
-/

namespace ApiStub.Route

open Api (Description Operation)
open Http (Method)
open Mock (Maker)

namespace Table

theorem positions_record (method other : Method) (position : Nat)
    (groups : List (Method × List Nat)) :
    (((record method position groups).find? (·.1 == other)).map (·.2)).getD [] =
      if method = other then ((groups.find? (·.1 == other)).map (·.2)).getD [] ++ [position]
      else ((groups.find? (·.1 == other)).map (·.2)).getD [] := by
  induction groups with
  | nil => by_cases same : method = other <;> simp [record, same]
  | cons group rest ih =>
      obtain ⟨first, known⟩ := group
      by_cases here : first = method
      · subst first
        by_cases same : method = other <;> simp [record, same]
      · by_cases found : first = other
        · subst first
          have differs : method ≠ other := fun same => here same.symm
          simp [record, here, differs]
        · simpa [record, here, found] using ih

theorem positionsOf_push (table : Table) (entry : Entry) (method : Method) :
    (table.push entry).positionsOf method =
      if entry.method = method then table.positionsOf method ++ [table.entries.size]
      else table.positionsOf method :=
  positions_record entry.method method table.entries.size table.positions

/-- The positions of every method ascend, stay in range and name the entries of that method. -/
structure Indexed (table : Table) : Prop where
  inRange : ∀ method, ∀ position ∈ table.positionsOf method, position < table.entries.size
  ascending : ∀ method, (table.positionsOf method).Pairwise (· < ·)
  listed : ∀ method,
    table.entriesOf method = table.entries.toList.filter fun entry => entry.method == method

theorem indexed_empty : Indexed {} where
  inRange _ position recorded := by simp [positionsOf] at recorded
  ascending _ := .nil
  listed _ := rfl

theorem Indexed.entriesOf_push {table : Table} (indexed : table.Indexed) (entry : Entry)
    (method : Method) :
    (table.push entry).entriesOf method =
      table.entriesOf method ++ if entry.method = method then [entry] else [] := by
  -- Positions in range name the same entries after one more is pushed.
  have kept : (table.positionsOf method).filterMap
      (fun position => (table.push entry).entries[position]?) = table.entriesOf method := by
    apply List.filterMap_congr
    intro position recorded
    have position_lt := indexed.inRange method position recorded
    simp [push, Array.getElem?_push, Nat.ne_of_lt position_lt]
  simp only [entriesOf]
  rw [positionsOf_push]
  split
  · rw [List.filterMap_append, kept]
    simp [push, entriesOf]
  · rw [kept, List.append_nil]
    rfl

theorem Indexed.push {table : Table} (indexed : table.Indexed) (entry : Entry) :
    (table.push entry).Indexed where
  inRange method position recorded := by
    rw [positionsOf_push] at recorded
    have size_eq : (table.push entry).entries.size = table.entries.size + 1 := by
      simp [Table.push]
    split at recorded
    · rcases List.mem_append.mp recorded with before | last
      · have := indexed.inRange method position before
        omega
      · rw [List.mem_singleton.mp last]
        omega
    · have := indexed.inRange method position recorded
      omega
  ascending method := by
    rw [positionsOf_push]
    split
    · refine List.pairwise_append.mpr ⟨indexed.ascending method, List.pairwise_singleton _ _, ?_⟩
      intro position recorded last last_mem
      rw [List.mem_singleton.mp last_mem]
      exact indexed.inRange method position recorded
    · exact indexed.ascending method
  listed method := by
    rw [indexed.entriesOf_push, indexed.listed]
    by_cases same : entry.method = method <;> simp [Table.push, same]

theorem Indexed.foldl_push {table : Table} (indexed : table.Indexed) (entries : List Entry) :
    (entries.foldl Table.push table).Indexed := by
  induction entries generalizing table with
  | nil => exact indexed
  | cons entry rest ih => exact ih (indexed.push entry)

theorem indexed_ofEntries (entries : List Entry) : (ofEntries entries).Indexed :=
  indexed_empty.foldl_push entries

theorem toList_foldl_push (table : Table) (entries : List Entry) :
    (entries.foldl push table).entries.toList = table.entries.toList ++ entries := by
  induction entries generalizing table with
  | nil => simp
  | cons entry rest ih => simp [ih, push]

theorem toList_ofEntries (entries : List Entry) : (ofEntries entries).entries.toList = entries := by
  rw [ofEntries, toList_foldl_push]
  rfl

end Table

/-- A scan through all the entries, in order. -/
def scan (method : Method) (path : List Char) : List Entry → Lookup
  | [] => .notFound
  | entry :: rest =>
    if entry.method = method then
      match entry.template.pieces? path with
      | some pieces => .found entry (entry.template.names.zip (pieces.map String.ofList))
      | none => scan method path rest
    else scan method path rest

/-- The entry is the first of the method that the path fits, and these are its pieces. -/
structure FirstFit (method : Method) (path : List Char) (entries : List Entry) (entry : Entry)
    (pieces : List (List Char)) : Prop where
  answers : entry.method = method
  fits : entry.template.pieces? path = some pieces
  first : ∃ before after, entries = before ++ entry :: after ∧
    ∀ earlier ∈ before, earlier.method = method → earlier.template.pieces? path = none

theorem firstFit_cons_iff {method : Method} {path : List Char} {head entry : Entry}
    {rest : List Entry} {pieces : List (List Char)} :
    FirstFit method path (head :: rest) entry pieces ↔
      (entry = head ∧ head.method = method ∧ head.template.pieces? path = some pieces) ∨
        ((head.method = method → head.template.pieces? path = none) ∧
          FirstFit method path rest entry pieces) := by
  constructor
  · rintro ⟨answers, fits, before, after, split, first⟩
    cases before with
    | nil =>
        cases split
        exact Or.inl ⟨rfl, answers, fits⟩
    | cons other before =>
        cases split
        refine Or.inr ⟨first head List.mem_cons_self, answers, fits, before, after, rfl, ?_⟩
        intro earlier earlier_mem
        exact first earlier (List.mem_cons_of_mem _ earlier_mem)
  · rintro (⟨rfl, answers, fits⟩ | ⟨passed, answers, fits, before, after, rfl, first⟩)
    · exact ⟨answers, fits, [], rest, rfl, by simp⟩
    · refine ⟨answers, fits, head :: before, after, rfl, ?_⟩
      intro earlier earlier_mem
      rcases List.mem_cons.mp earlier_mem with rfl | later
      · exact passed
      · exact first earlier later

theorem firstFit_filter (method : Method) (path : List Char) (entries : List Entry) :
    firstFit path (entries.filter fun entry => entry.method == method) =
      scan method path entries := by
  induction entries with
  | nil => rfl
  | cons entry rest ih =>
      by_cases same : entry.method = method
      · simp only [List.filter_cons, same, beq_self_eq_true, if_true, firstFit, scan,
          Entry.bindings?, ih]
        cases entry.template.pieces? path <;> rfl
      · simp [scan, same, ih]

theorem scan_eq_found_iff {method : Method} {path : List Char} {entries : List Entry}
    {entry : Entry} {bindings : List (String × String)} :
    scan method path entries = .found entry bindings ↔
      ∃ pieces, FirstFit method path entries entry pieces ∧
        bindings = entry.template.names.zip (pieces.map String.ofList) := by
  induction entries with
  | nil =>
      constructor
      · intro found
        cases found
      · rintro ⟨pieces, ⟨_, _, before, after, split, _⟩, _⟩
        simp at split
  | cons head rest ih =>
      simp only [firstFit_cons_iff]
      by_cases same : head.method = method
      · cases fits : head.template.pieces? path with
        | none => simp [scan, same, fits, ih]
        | some pieces =>
            simp only [scan, same, if_true, fits, Lookup.found.injEq]
            constructor
            · rintro ⟨rfl, rfl⟩
              exact ⟨pieces, Or.inl ⟨rfl, by simp, rfl⟩, rfl⟩
            · rintro ⟨others, ⟨rfl, -, found⟩ | ⟨passed, -⟩, rfl⟩
              · cases found
                exact ⟨rfl, rfl⟩
              · simp at passed
      · simp [scan, same, ih]

theorem scan_eq_notFound_iff {method : Method} {path : List Char} {entries : List Entry} :
    scan method path entries = .notFound ↔
      ∀ entry ∈ entries, entry.method = method → entry.template.pieces? path = none := by
  induction entries with
  | nil => simp [scan]
  | cons head rest ih =>
      by_cases same : head.method = method
      · cases fits : head.template.pieces? path <;> simp [scan, same, fits, ih]
      · simp [scan, same, ih]

theorem scan_append (method : Method) (path : List Char) (before after : List Entry) :
    scan method path (before ++ after) =
      if (scan method path before).succeeded then scan method path before
      else scan method path after := by
  induction before with
  | nil => rfl
  | cons entry rest ih =>
      by_cases same : entry.method = method
      · cases fits : entry.template.pieces? path with
        | none => simp [scan, same, fits, ih]
        | some pieces => simp [scan, same, fits, Lookup.succeeded]
      · simp [scan, same, ih]

theorem pieces?_healthEntry : healthEntry.template.pieces? healthPath.toList = some [] := by
  decide

/-- An entry for the path of the last entry goes before it; without one, the last one is found. -/
theorem scan_healthPath {entries : List Entry}
    (declared : ∀ entry ∈ entries, entry.reportsHealth = false) :
    ∃ entry bindings,
      scan .get healthPath.toList (entries ++ [healthEntry]) = .found entry bindings ∧
        (entry = healthEntry ↔
          ∀ earlier ∈ entries, earlier.method = .get →
            earlier.template.pieces? healthPath.toList = none) := by
  rw [scan_append]
  cases result : scan .get healthPath.toList entries with
  | notFound =>
      have passed := scan_eq_notFound_iff.mp result
      refine ⟨healthEntry, [], ?_, ?_⟩
      · have answers : healthEntry.method = .get := rfl
        simp only [Lookup.succeeded, Bool.false_eq_true, if_false, scan, answers, if_true,
          pieces?_healthEntry]
        rfl
      · exact ⟨fun _ => passed, fun _ => rfl⟩
  | found entry bindings =>
      rcases scan_eq_found_iff.mp result with ⟨pieces, ⟨answers, fits, before, after, split, -⟩, -⟩
      have entry_mem : entry ∈ entries := by
        rw [split]
        simp
      refine ⟨entry, bindings, by simp [Lookup.succeeded], ?_, ?_⟩
      · rintro rfl
        have := declared _ entry_mem
        cases this
      · intro passed
        rw [passed entry entry_mem answers] at fits
        cases fits

/-- A table answers lookups of a method and a target as a scan of what was pushed does. -/
structure AgreesWithScan (table : Table) (pushed : List Entry) (method : Method)
    (target : String) : Prop where
  entries : table.entries.toList = pushed
  inRange : ∀ position ∈ table.positionsOf method, position < table.entries.size
  ascending : (table.positionsOf method).Pairwise (· < ·)
  listed : table.entriesOf method = pushed.filter fun entry => entry.method == method
  path : ∃ query, target.toList = pathOf target.toList ++ query ∧ '?' ∉ pathOf target.toList ∧
    ∀ c ∈ query.head?, c = '?'
  scanned : table.lookup method target = scan method (pathOf target.toList) pushed
  found : ∀ entry bindings, table.lookup method target = .found entry bindings ↔
    ∃ pieces, FirstFit method (pathOf target.toList) pushed entry pieces ∧
      bindings = entry.template.names.zip (pieces.map String.ofList)
  notFound : table.lookup method target = .notFound ↔
    ∀ entry ∈ pushed, entry.method = method →
      entry.template.pieces? (pathOf target.toList) = none

theorem Table.lookup_ofEntries (pushed : List Entry) (method : Method) (target : String) :
    (ofEntries pushed).lookup method target = scan method (pathOf target.toList) pushed := by
  rw [lookup, (indexed_ofEntries pushed).listed, toList_ofEntries, firstFit_filter]

theorem agreesWithScan_ofEntries (pushed : List Entry) (method : Method) (target : String) :
    AgreesWithScan (Table.ofEntries pushed) pushed method target where
  entries := Table.toList_ofEntries pushed
  inRange := (Table.indexed_ofEntries pushed).inRange method
  ascending := (Table.indexed_ofEntries pushed).ascending method
  listed := by rw [(Table.indexed_ofEntries pushed).listed, Table.toList_ofEntries]
  path := ⟨_, takeWhile_ne_split '?' target.toList⟩
  scanned := Table.lookup_ofEntries pushed method target
  found entry bindings := by rw [Table.lookup_ofEntries, scan_eq_found_iff]
  notFound := by rw [Table.lookup_ofEntries, scan_eq_notFound_iff]

/-- In every table put together by pushing, a lookup is a scan; and in every table built for a
description, the path of the last entry is found, and found there unless an operation takes it. -/
theorem lookup_agrees_with_scan :
    (∀ pushed method target, AgreesWithScan (Table.ofEntries pushed) pushed method target) ∧
      ∀ {σ : Type} [WordSource σ] (maker : Maker) (description : Description) (source : σ)
        (table : Table), ((build maker description).run source).1 = .ok table →
        ∃ entry bindings, table.lookup .get "/health" = .found entry bindings ∧
          (entry = healthEntry ↔
            ∀ operation ∈ description.operations, operation.2.method = .get →
              ∀ template, Template.compile operation.1 operation.2 = .ok template →
                template.pieces? "/health".toList = none) := by
  refine ⟨agreesWithScan_ofEntries, ?_⟩
  intro σ _ maker description source table built
  rcases yields_build maker description source table built with ⟨entries, rfl, declares⟩
  have path_eq : pathOf healthPath.toList = healthPath.toList := by decide
  have declared : ∀ entry ∈ entries, entry.reportsHealth = false := by
    intro entry entry_mem
    rcases exists_left_of_mem declares entry_mem with ⟨operation, -, holds⟩
    exact holds.not_reportsHealth
  rcases scan_healthPath declared with ⟨entry, bindings, found, last⟩
  refine ⟨entry, bindings, ?_, last.trans ?_⟩
  · change (Table.ofEntries (entries ++ [healthEntry])).lookup .get healthPath = _
    rw [Table.lookup_ofEntries, path_eq, found]
  · constructor
    · intro passed operation operation_mem isGet template compiled
      rcases exists_right_of_mem declares operation_mem with ⟨entry, entry_mem, holds⟩
      have same : entry.template = template := by
        have := holds.template
        rw [compiled] at this
        cases this
        rfl
      rw [← same]
      exact passed entry entry_mem (holds.method.trans isGet)
    · intro passed entry entry_mem isGet
      rcases exists_left_of_mem declares entry_mem with ⟨operation, operation_mem, holds⟩
      exact passed operation operation_mem (holds.method.symm.trans isGet) _ holds.template

/-- A slot takes the path of the last entry. -/
theorem lookup_agrees_with_scan_slot :
    ∃ table : Table,
      ((build {}
        { openapi := "3.0.0", title := none, version := none,
          paths := [⟨"/{probe}", [{ method := .get }]⟩], schemaCount := 0 } :
        Draw ScriptedWords _).run {}).1 = .ok table ∧
      ∃ entry bindings, table.lookup .get "/health" = .found entry bindings ∧
        entry ≠ healthEntry := by
  have succeeds : ∃ table : Table,
      ((build {}
        { openapi := "3.0.0", title := none, version := none,
          paths := [⟨"/{probe}", [{ method := .get }]⟩], schemaCount := 0 } :
        Draw ScriptedWords _).run {}).1 = .ok table := ⟨_, rfl⟩
  rcases succeeds with ⟨table, built⟩
  rcases lookup_agrees_with_scan.2 _ _ _ table built with ⟨entry, bindings, found, last⟩
  refine ⟨table, built, entry, bindings, found, fun same => ?_⟩
  have missed := last.mp same ("/{probe}", { method := .get }) List.mem_cons_self rfl
    ⟨"/".toList, [⟨"probe".toList, .token, []⟩]⟩ rfl
  exact absurd missed (by decide)

end ApiStub.Route
