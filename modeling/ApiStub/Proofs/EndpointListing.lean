import ApiStub.Route.Table
import ApiStub.Text.Split
import Mathlib.Data.List.Nodup

/-!
# The listing of endpoints

Every template of a table has one line, in the order in which the templates appear among the
entries, and the line shows each method of the template once, in the same order. The entries of a
template need not stand together: `Grouped` says what the groups are after some of the entries, and
it is kept when one more is added to a group that may lie far back.

A method is a token, which has no comma, space or bracket. So a line can be read back, whatever its
template is, and the pairs that the lines show are those of the entries.
-/

namespace ApiStub.Route

open Http (isToken isTokenChar)

/-- The values of a list, each of them once, in the order in which they appear first. -/
structure FirstAppearances (all distinct : List String) : Prop where
  mem_iff : ∀ value, value ∈ distinct ↔ value ∈ all
  inOrder : distinct.Pairwise fun first second => all.idxOf first < all.idxOf second

namespace FirstAppearances

variable {all distinct : List String}

theorem nil : FirstAppearances [] [] where
  mem_iff _ := Iff.rfl
  inOrder := .nil

theorem nodup (appear : FirstAppearances all distinct) : distinct.Nodup := by
  refine appear.inOrder.imp ?_
  rintro first second before rfl
  exact Nat.lt_irrefl _ before

/-- Values that come later do not change the order of those before. -/
theorem inOrder_append (appear : FirstAppearances all distinct) (more : List String) :
    distinct.Pairwise fun first second =>
      (all ++ more).idxOf first < (all ++ more).idxOf second := by
  refine appear.inOrder.imp_of_mem ?_
  intro first second first_mem second_mem before
  rwa [List.idxOf_append_of_mem ((appear.mem_iff first).mp first_mem),
    List.idxOf_append_of_mem ((appear.mem_iff second).mp second_mem)]

theorem seen (appear : FirstAppearances all distinct) {value : String} (known : value ∈ all) :
    FirstAppearances (all ++ [value]) distinct where
  mem_iff other := by
    rw [appear.mem_iff, List.mem_append, List.mem_singleton]
    constructor
    · exact Or.inl
    · rintro (mem | rfl)
      · exact mem
      · exact known
  inOrder := appear.inOrder_append [value]

theorem fresh (appear : FirstAppearances all distinct) {value : String} (new : value ∉ all) :
    FirstAppearances (all ++ [value]) (distinct ++ [value]) where
  mem_iff other := by
    rw [List.mem_append, List.mem_append, appear.mem_iff]
  inOrder := by
    refine List.pairwise_append.mpr
      ⟨appear.inOrder_append [value], List.pairwise_singleton _ _, ?_⟩
    intro first first_mem last last_mem
    have earlier := (appear.mem_iff first).mp first_mem
    rw [List.mem_singleton.mp last_mem, List.idxOf_append_of_mem earlier,
      List.idxOf_append_of_notMem new]
    exact Nat.lt_add_right _ (List.idxOf_lt_length_of_mem earlier)

/-- One more value goes to the end, unless it is there. -/
theorem add (appear : FirstAppearances all distinct) (value : String) :
    FirstAppearances (all ++ [value])
      (if distinct.contains value then distinct else distinct ++ [value]) := by
  split
  · rename_i there
    exact appear.seen ((appear.mem_iff value).mp (List.contains_iff_mem.mp there))
  · rename_i absent
    refine appear.fresh fun mem => absent ?_
    exact List.contains_iff_mem.mpr ((appear.mem_iff value).mpr mem)

end FirstAppearances

/-! ## Groups -/

/-- The methods of the entries with a template. -/
def methodsOf (entries : List Entry) (template : String) : List String :=
  (entries.filter fun entry => entry.template.text == template).map (·.method.token)

/-- There is a group for every template of the entries, with the methods of its entries. -/
structure Grouped (entries : List Entry) (groups : List (String × List String)) : Prop where
  templates : FirstAppearances (entries.map (·.template.text)) (groups.map (·.1))
  methods : ∀ group ∈ groups, FirstAppearances (methodsOf entries group.1) group.2

namespace Table

theorem templates_addToGroup (template method : String) (groups : List (String × List String)) :
    (addToGroup template method groups).map (·.1) =
      if (groups.map (·.1)).contains template then groups.map (·.1)
      else groups.map (·.1) ++ [template] := by
  induction groups with
  | nil => rfl
  | cons group rest ih =>
      by_cases same : group.1 = template
      · simp [addToGroup, same]
      · have differs : template ≠ group.1 := fun other => same other.symm
        rw [addToGroup, if_neg (by simpa using same), List.map_cons, ih]
        by_cases later : template ∈ rest.map (·.1)
        · simp [later]
        · simp [later, differs]

/-- A group that is not the template's one is as it was; the template's one has the method, after
those it had if it was there. -/
theorem mem_addToGroup {template method : String} {groups : List (String × List String)}
    (distinct : (groups.map (·.1)).Nodup) {group : String × List String}
    (mem : group ∈ addToGroup template method groups) :
    (group ∈ groups ∧ group.1 ≠ template) ∨
      ∃ known, group = (template, if known.contains method then known else known ++ [method]) ∧
        ((template, known) ∈ groups ∨ known = [] ∧ template ∉ groups.map (·.1)) := by
  induction groups with
  | nil =>
      refine Or.inr ⟨[], ?_, Or.inr ⟨rfl, List.not_mem_nil⟩⟩
      exact List.mem_singleton.mp mem
  | cons first rest ih =>
      rcases List.nodup_cons.mp distinct with ⟨alone, others⟩
      by_cases same : first.1 = template
      · rw [addToGroup, if_pos (by simpa using same)] at mem
        rcases List.mem_cons.mp mem with rfl | later
        · refine Or.inr ⟨first.2, by rw [same], Or.inl ?_⟩
          rw [← same]
          exact List.mem_cons_self
        · refine Or.inl ⟨List.mem_cons_of_mem _ later, fun other => alone ?_⟩
          exact List.mem_map.mpr ⟨group, later, other.trans same.symm⟩
      · rw [addToGroup, if_neg (by simpa using same)] at mem
        rcases List.mem_cons.mp mem with rfl | later
        · exact Or.inl ⟨List.mem_cons_self, same⟩
        · rcases ih others later with ⟨listed, differs⟩ | ⟨known, shape, origin⟩
          · exact Or.inl ⟨List.mem_cons_of_mem _ listed, differs⟩
          · refine Or.inr ⟨known, shape, ?_⟩
            rcases origin with listed | ⟨empty, absent⟩
            · exact Or.inl (List.mem_cons_of_mem _ listed)
            · refine Or.inr ⟨empty, ?_⟩
              rw [List.map_cons, List.mem_cons]
              rintro (here | there)
              · exact same here.symm
              · exact absent there

end Table

theorem methodsOf_append_of_ne {entry : Entry} {template : String}
    (differs : template ≠ entry.template.text) (entries : List Entry) :
    methodsOf (entries ++ [entry]) template = methodsOf entries template := by
  have other : (entry.template.text == template) = false := by simpa using differs.symm
  simp [methodsOf, List.filter_append, other]

theorem methodsOf_append_self (entries : List Entry) (entry : Entry) :
    methodsOf (entries ++ [entry]) entry.template.text =
      methodsOf entries entry.template.text ++ [entry.method.token] := by
  simp [methodsOf, List.filter_append]

theorem methodsOf_eq_nil {entries : List Entry} {template : String}
    (absent : template ∉ entries.map (·.template.text)) : methodsOf entries template = [] := by
  rw [methodsOf, List.map_eq_nil_iff, List.filter_eq_nil_iff]
  intro entry mem same
  exact absent (List.mem_map.mpr ⟨entry, mem, by simpa using same⟩)

theorem mem_methodsOf_iff {entries : List Entry} {template method : String} :
    method ∈ methodsOf entries template ↔
      ∃ entry ∈ entries, entry.method.token = method ∧ entry.template.text = template := by
  simp only [methodsOf, List.mem_map, List.mem_filter, beq_iff_eq]
  constructor
  · rintro ⟨entry, ⟨mem, same⟩, shown⟩
    exact ⟨entry, mem, shown, same⟩
  · rintro ⟨entry, mem, shown, same⟩
    exact ⟨entry, ⟨mem, same⟩, shown⟩

namespace Grouped

variable {entries : List Entry} {groups : List (String × List String)}

theorem nil : Grouped [] [] where
  templates := .nil
  methods _ mem := absurd mem List.not_mem_nil

/-- One more entry keeps the groups. -/
theorem step (grouped : Grouped entries groups) (entry : Entry) :
    Grouped (entries ++ [entry])
      (Table.addToGroup entry.template.text entry.method.token groups) where
  templates := by
    rw [List.map_append, Table.templates_addToGroup]
    exact grouped.templates.add entry.template.text
  methods := by
    intro group mem
    rcases Table.mem_addToGroup grouped.templates.nodup mem with
      ⟨listed, differs⟩ | ⟨known, rfl, origin⟩
    · rw [methodsOf_append_of_ne differs]
      exact grouped.methods group listed
    · rw [methodsOf_append_self]
      rcases origin with listed | ⟨rfl, absent⟩
      · exact (grouped.methods _ listed).add _
      · -- The template is new, so no entry before had it.
        have none : methodsOf entries entry.template.text = [] :=
          methodsOf_eq_nil fun mem => absent ((grouped.templates.mem_iff _).mpr mem)
        rw [none]
        exact FirstAppearances.nil.add _

theorem foldl (grouped : Grouped entries groups) (more : List Entry) :
    Grouped (entries ++ more)
      (more.foldl (fun groups entry =>
        Table.addToGroup entry.template.text entry.method.token groups) groups) := by
  induction more generalizing entries groups with
  | nil => simpa using grouped
  | cons entry rest ih =>
      rw [List.foldl_cons, List.append_cons]
      exact ih (grouped.step entry)

end Grouped

theorem Table.grouped (table : Table) : Grouped table.entries.toList table.groups :=
  Grouped.nil.foldl table.entries.toList

/-- The pairs of a method and a template in some groups. -/
def pairs (groups : List (String × List String)) : List (String × String) :=
  groups.flatMap fun group => group.2.map fun method => (method, group.1)

namespace Grouped

variable {entries : List Entry} {groups : List (String × List String)}

theorem mem_pairs_iff (grouped : Grouped entries groups) {method template : String} :
    (method, template) ∈ pairs groups ↔
      ∃ entry ∈ entries, entry.method.token = method ∧ entry.template.text = template := by
  simp only [pairs, List.mem_flatMap, List.mem_map, Prod.mk.injEq]
  constructor
  · rintro ⟨group, listed, shown, mem, rfl, rfl⟩
    exact mem_methodsOf_iff.mp (((grouped.methods group listed).mem_iff shown).mp mem)
  · rintro ⟨entry, mem, rfl, rfl⟩
    have present := (grouped.templates.mem_iff entry.template.text).mpr
      (List.mem_map_of_mem mem)
    rcases List.mem_map.mp present with ⟨group, listed, same⟩
    refine ⟨group, listed, entry.method.token, ?_, rfl, same⟩
    exact ((grouped.methods group listed).mem_iff _).mpr
      (mem_methodsOf_iff.mpr ⟨entry, mem, rfl, same.symm⟩)

theorem nodup_pairs (grouped : Grouped entries groups) : (pairs groups).Nodup := by
  refine List.nodup_flatMap.mpr ⟨?_, ?_⟩
  · intro group listed
    exact (grouped.methods group listed).nodup.map fun _ _ same => congrArg Prod.fst same
  · refine (List.pairwise_map.mp grouped.templates.nodup).imp ?_
    intro first second differs pair inFirst inSecond
    rcases List.mem_map.mp inFirst with ⟨_, _, rfl⟩
    rcases List.mem_map.mp inSecond with ⟨_, _, same⟩
    exact differs (congrArg Prod.snd same).symm

theorem methods_ne_nil (grouped : Grouped entries groups) {group : String × List String}
    (listed : group ∈ groups) : group.2 ≠ [] := by
  have present := (grouped.templates.mem_iff group.1).mp (List.mem_map_of_mem listed)
  rcases List.mem_map.mp present with ⟨entry, mem, same⟩
  have shown : entry.method.token ∈ group.2 :=
    ((grouped.methods group listed).mem_iff _).mpr (mem_methodsOf_iff.mpr ⟨entry, mem, rfl, same⟩)
  exact List.ne_nil_of_mem shown

theorem isToken_of_mem (grouped : Grouped entries groups)
    (tokens : ∀ entry ∈ entries, isToken entry.method.token = true)
    {group : String × List String} (listed : group ∈ groups) :
    ∀ method ∈ group.2, isToken method = true := by
  intro method mem
  rcases mem_methodsOf_iff.mp (((grouped.methods group listed).mem_iff method).mp mem) with
    ⟨entry, inside, rfl, _⟩
  exact tokens entry inside

end Grouped

/-! ## Lines -/

/-- The pairs that a line shows: its methods stand in brackets, and its template after them. -/
def readLine (line : String) : List (String × String) :=
  let shown := line.toList.drop 5
  let methods := shown.takeWhile (· != ']')
  let template := String.ofList (shown.drop (methods.length + 4))
  (Text.splitAtChar ',' (methods.filter (· != ' '))).map fun method =>
    (String.ofList method, template)

theorem not_mem_of_isToken {text : String} (token : isToken text = true) {c : Char}
    (aside : isTokenChar c = false) : c ∉ text.toList := by
  intro mem
  rw [isToken, Bool.and_eq_true, List.all_eq_true] at token
  exact Bool.false_ne_true (aside.symm.trans (token.2 c mem))

/-- Without its spaces a list has a mere comma between two parts. -/
theorem filter_intercalate {parts : List (List Char)} (solid : ∀ part ∈ parts, ' ' ∉ part) :
    ([',', ' '].intercalate parts).filter (· != ' ') = [','].intercalate parts := by
  have kept : ∀ part : List Char, ' ' ∉ part → part.filter (· != ' ') = part := by
    intro part absent
    refine List.filter_eq_self.mpr fun c mem => ?_
    have differs : c ≠ ' ' := fun same => absent (same ▸ mem)
    simpa using differs
  induction parts with
  | nil => rfl
  | cons part rest ih =>
      rcases List.forall_mem_cons.mp solid with ⟨first, others⟩
      cases rest with
      | nil => simpa using kept part first
      | cons next rest =>
          rw [List.intercalate_cons_cons, List.intercalate_cons_cons, List.filter_append,
            List.filter_append, kept part first, ih others]
          rfl

theorem mem_intercalate {separator : List Char} {parts : List (List Char)} {c : Char}
    (mem : c ∈ separator.intercalate parts) : c ∈ separator ∨ ∃ part ∈ parts, c ∈ part := by
  induction parts with
  | nil => exact absurd mem List.not_mem_nil
  | cons part rest ih =>
      cases rest with
      | nil => exact Or.inr ⟨part, List.mem_cons_self, by simpa using mem⟩
      | cons next rest =>
          rw [List.intercalate_cons_cons, List.mem_append, List.mem_append] at mem
          rcases mem with (first | between) | later
          · exact Or.inr ⟨part, List.mem_cons_self, first⟩
          · exact Or.inl between
          · rcases ih later with between | ⟨other, listed, inside⟩
            · exact Or.inl between
            · exact Or.inr ⟨other, List.mem_cons_of_mem _ listed, inside⟩

/-- A line can be read back: nothing of a method ends the methods. -/
theorem readLine_listingLine {group : String × List String} (nonempty : group.2 ≠ [])
    (tokens : ∀ method ∈ group.2, isToken method = true) :
    readLine (Table.listingLine group) = group.2.map fun method => (method, group.1) := by
  have lacks : ∀ c, isTokenChar c = false → ∀ part ∈ group.2.map String.toList, c ∉ part := by
    intro c aside part listed
    rcases List.mem_map.mp listed with ⟨method, mem, rfl⟩
    exact not_mem_of_isToken (tokens method mem) aside
  have shown : (Table.listingLine group).toList.drop 5 =
      [',', ' '].intercalate (group.2.map String.toList) ++ ("] | ".toList ++ group.1.toList) := by
    simp [Table.listingLine]
  have inside : ∀ c ∈ [',', ' '].intercalate (group.2.map String.toList), (c != ']') = true := by
    intro c mem
    rcases mem_intercalate mem with between | ⟨part, listed, here⟩
    · rcases List.mem_pair.mp between with rfl | rfl
      · decide
      · decide
    · have differs : c ≠ ']' := fun same => lacks ']' (by decide) part listed (same ▸ here)
      simpa using differs
  have methods : ((Table.listingLine group).toList.drop 5).takeWhile (· != ']') =
      [',', ' '].intercalate (group.2.map String.toList) := by
    rw [shown, List.takeWhile_append_of_pos inside]
    simp
  rw [readLine, methods, shown, filter_intercalate (lacks ' ' (by decide)),
    Text.splitAtChar_intercalate (lacks ',' (by decide)) (by simpa using nonempty)]
  simp [List.drop_append]

theorem toList_lines (lines : List String) :
    (String.join (lines.map (· ++ "\n"))).toList =
      lines.flatMap fun line => line.toList ++ ['\n'] := by
  have line_end : "\n".toList = ['\n'] := rfl
  rw [String.toList_join, List.flatMap_map]
  simp only [String.toList_append, line_end]

theorem Table.toList_banner (table : Table) :
    table.banner.toList =
      "Available endpoints:\n".toList ++
        table.listing.flatMap fun line => line.toList ++ ['\n'] := by
  rw [← toList_lines]
  exact String.toList_append

/-- The listing has one line for each template, in order of first appearance, with the methods of
its entries in the same order. Every pair of a method and a template of an entry is among them
once, and no other pair is; the lines can be read back to these pairs, as methods are tokens. The
banner is a heading with the lines below it, each of them ended. -/
theorem listing_exact (table : Table) :
    Grouped table.entries.toList table.groups ∧
    table.listing = table.groups.map (fun group =>
      "  - [" ++ ", ".intercalate group.2 ++ "] | " ++ group.1) ∧
    (pairs table.groups).Nodup ∧
    (∀ method template, (method, template) ∈ pairs table.groups ↔
      ∃ entry ∈ table.entries.toList,
        entry.method.token = method ∧ entry.template.text = template) ∧
    ((∀ entry ∈ table.entries.toList, isToken entry.method.token = true) →
      table.listing.flatMap readLine = pairs table.groups) ∧
    table.banner.toList = "Available endpoints:\n".toList ++
      table.listing.flatMap fun line => line.toList ++ ['\n'] := by
  have grouped := table.grouped
  refine ⟨grouped, rfl, grouped.nodup_pairs, fun _ _ => grouped.mem_pairs_iff, ?_,
    table.toList_banner⟩
  intro tokens
  rw [Table.listing, List.flatMap_map, pairs]
  refine List.flatMap_congr fun group listed => ?_
  exact readLine_listingLine (grouped.methods_ne_nil listed) (grouped.isToken_of_mem tokens listed)

/-- A table whose first template comes again after another one, with a method that it has and one
that is new. -/
def recurringTable : Table :=
  .ofEntries ([("GET", "/health"), ("POST", "/pets"), ("DELETE", "/health"), ("GET", "/health")].map
    fun (method, template) =>
      { method := ⟨method⟩, template := .ofLiteral template, status := 204, responses := [],
        origin := .operation none })

theorem listing_exact_recurring :
    (∀ entry ∈ recurringTable.entries.toList, isToken entry.method.token = true) ∧
      recurringTable.listing = ["  - [GET, DELETE] | /health", "  - [POST] | /pets"] ∧
      recurringTable.listing.flatMap readLine =
        [("GET", "/health"), ("DELETE", "/health"), ("POST", "/pets")] := by
  have tokens : ∀ entry ∈ recurringTable.entries.toList, isToken entry.method.token = true := by
    decide
  have groups : recurringTable.groups = [("/health", ["GET", "DELETE"]), ("/pets", ["POST"])] := by
    decide
  rcases listing_exact recurringTable with ⟨_, lines, _, _, read, _⟩
  refine ⟨tokens, ?_, ?_⟩
  · rw [lines, groups]
    rfl
  · rw [read tokens, groups]
    rfl

end ApiStub.Route
