import SchemaMerge.Proofs.NameMaps
import SchemaMerge.Proofs.ReferenceTexts

/-!
Pointers against the segments that they are written from. No written segment has a slash in it, so
what is written below a pointer is read back below it (`Pointer.segments_descend_below`), and two
places of a value never have one pointer. A pointer into the definitions goes through the components
and their schemas to the name of a definition (`SchemaRef.segments_of_split?`). So it points at
nothing if there is no such definition, whatever comes below the name
(`Document.contains_of_resolves`).
-/

namespace SchemaMerge

namespace Pointer

/-- How segments are written one below the other. -/
def written (segments : List String) : List Char :=
  segments.flatMap fun segment => '/' :: (escape segment).toList

theorem slash_notMem_escape (segment : String) : '/' ∉ (escape segment).toList := by
  rw [escape, String.toList_ofList]
  intro hslash
  exact absurd (SchemaRef.slash_not_mem_escape _ '/' hslash) (by decide)

theorem toList_child (parent segment : String) :
    (child parent segment).toList = parent.toList ++ '/' :: (escape segment).toList := by
  rw [child, String.toList_append, String.toList_append, List.append_assoc]
  rfl

theorem toList_descend (parent : String) (segments : List String) :
    (descend parent segments).toList = parent.toList ++ written segments := by
  induction segments generalizing parent with
  | nil => exact (List.append_nil _).symm
  | cons segment rest ih =>
      have hstep : descend parent (segment :: rest) = descend (child parent segment) rest := rfl
      rw [hstep, ih, toList_child, written, written, List.flatMap_cons, List.append_assoc]

theorem descend_append (parent : String) (upper lower : List String) :
    descend parent (upper ++ lower) = descend (descend parent upper) lower :=
  List.foldl_append

theorem splitSlashes_of_notMem {part : List Char} (h : '/' ∉ part) :
    splitSlashes part = [part] := by
  induction part with
  | nil => rfl
  | cons c rest ih =>
      obtain ⟨hc, hrest⟩ := List.ne_and_not_mem_of_not_mem_cons h
      rw [splitSlashes, if_neg (Ne.symm hc), ih hrest]

theorem splitSlashes_ne_nil (chars : List Char) : splitSlashes chars ≠ [] := by
  cases chars with
  | nil => exact List.cons_ne_nil _ _
  | cons c rest =>
      rw [splitSlashes]
      split
      · exact List.cons_ne_nil _ _
      · split <;> exact List.cons_ne_nil _ _

/-- What stands before a slash and what stands after it are split apart from each other. -/
theorem splitSlashes_append (front rest : List Char) :
    splitSlashes (front ++ '/' :: rest) = splitSlashes front ++ splitSlashes rest := by
  induction front with
  | nil => exact if_pos rfl
  | cons c front ih =>
      rw [List.cons_append, splitSlashes, splitSlashes, ih]
      split
      · rfl
      · cases hfront : splitSlashes front with
        | nil => exact absurd hfront (splitSlashes_ne_nil front)
        | cons part parts => rfl

theorem splitSlashes_part {part : List Char} (h : '/' ∉ part) (rest : List Char) :
    splitSlashes (part ++ '/' :: rest) = part :: splitSlashes rest := by
  rw [splitSlashes_append, splitSlashes_of_notMem h]
  rfl

theorem body_of_ne_hash {pointer : String} {c : Char} {rest : List Char} (hc : c ≠ '#')
    (h : pointer.toList = c :: rest) : body pointer = c :: rest := by
  rw [body, h]
  split
  case h_1 heq =>
    cases heq
    exact absurd rfl hc
  case h_2 => rfl

theorem body_child (pointer segment : String) :
    body (child pointer segment) = body pointer ++ '/' :: (escape segment).toList := by
  have hchild := toList_child pointer segment
  cases hchars : pointer.toList with
  | nil =>
      rw [hchars, List.nil_append] at hchild
      rw [body_of_ne_hash (by decide) hchild, body, hchars]
      rfl
  | cons c rest =>
      rw [hchars, List.cons_append] at hchild
      by_cases hhash : c = '#'
      · subst hhash
        rw [body, body, hchild, hchars]
        rfl
      · rw [body_of_ne_hash hhash hchild, body_of_ne_hash hhash hchars, List.cons_append]

/-- The parts of a pointer as they are written, without the empty one in front of a first slash. -/
def parts (pointer : String) : List (List Char) :=
  match body pointer with
  | [] => []
  | '/' :: rest => splitSlashes rest
  | chars => splitSlashes chars

theorem segments_eq_map_parts (pointer : String) :
    segments pointer = (parts pointer).map fun part => String.ofList (unescapeChars part) :=
  rfl

theorem parts_of_body {pointer : String} {rest : List Char} (h : body pointer = '/' :: rest) :
    parts pointer = splitSlashes rest := by
  rw [parts, h]
  rfl

theorem parts_of_ne_slash {pointer : String} {c : Char} {rest : List Char} (hc : c ≠ '/')
    (h : body pointer = c :: rest) : parts pointer = splitSlashes (c :: rest) := by
  rw [parts, h]
  split
  case h_1 heq => cases heq
  case h_2 heq =>
    cases heq
    exact absurd rfl hc
  case h_3 => rfl

/-- One more segment is one more part, whatever the pointer looks like. -/
theorem parts_child (pointer segment : String) :
    parts (child pointer segment) = parts pointer ++ [(escape segment).toList] := by
  have hlast := splitSlashes_of_notMem (slash_notMem_escape segment)
  cases hbody : body pointer with
  | nil =>
      -- The slash of the segment is the first one, so no empty part stands in front of it.
      have hchild : body (child pointer segment) = '/' :: (escape segment).toList := by
        rw [body_child, hbody, List.nil_append]
      rw [parts_of_body hchild, hlast, parts, hbody]
      rfl
  | cons c rest =>
      have hchild : body (child pointer segment) =
          c :: (rest ++ '/' :: (escape segment).toList) := by
        rw [body_child, hbody, List.cons_append]
      by_cases hslash : c = '/'
      · subst hslash
        rw [parts_of_body hchild, parts_of_body hbody, splitSlashes_append, hlast]
      · rw [parts_of_ne_slash hslash hchild, parts_of_ne_slash hslash hbody, ← List.cons_append,
          splitSlashes_append, hlast]

theorem segments_child (pointer segment : String) :
    segments (child pointer segment) = segments pointer ++ [segment] := by
  rw [segments_eq_map_parts, parts_child, List.map_append]
  exact congrArg (_ ++ [·]) (unescape_escape segment)

/-- Segments that are written below a pointer are read back after those of the pointer. -/
theorem segments_descend_below (pointer : String) (below : List String) :
    segments (descend pointer below) = segments pointer ++ below := by
  induction below generalizing pointer with
  | nil => exact (List.append_nil _).symm
  | cons segment more ih =>
      have hstep : descend pointer (segment :: more) = descend (child pointer segment) more := rfl
      rw [hstep, ih, segments_child, List.append_assoc]
      rfl

/-- A pointer from the root is read back as it was written. -/
theorem segments_descend (below : List String) : segments (descend "#" below) = below :=
  segments_descend_below "#" below

example : segments "#/a~1b/c" = ["a/b", "c"] := by decide +kernel

theorem descend_injective {a b : List String} (h : descend "#" a = descend "#" b) : a = b := by
  rw [← segments_descend a, h, segments_descend]

end Pointer

namespace SchemaRef

/-- The pointer leads to the definition called `name`, or into it. -/
def Inside (name path : String) : Prop :=
  ∃ below, path = Pointer.descend (ofName name) below

theorem descend_ofName (name : String) (below : List String) :
    Pointer.descend (ofName name) below =
      Pointer.descend "#" ("components" :: "schemas" :: name :: below) := by
  have hname : ofName name = Pointer.descend "#" ["components", "schemas", name] := by
    apply String.toList_inj.1
    rw [ofName, String.toList_append, Pointer.toList_descend]
    have hstart : start.toList = "#".toList ++ Pointer.written ["components", "schemas"] ++ ['/'] := by
      decide +kernel
    rw [hstart, List.append_assoc, List.append_assoc]
    refine congrArg (_ ++ ·) ?_
    simp [Pointer.written]
  rw [hname, ← Pointer.descend_append]
  rfl

theorem container_eq : container = Pointer.descend "#" ["components", "schemas"] := by
  decide +kernel

theorem inside_descend_iff {name : String} {below : List String} :
    Inside name (Pointer.descend "#" below) ↔
      ∃ more, below = "components" :: "schemas" :: name :: more := by
  refine exists_congr fun more => ?_
  rw [descend_ofName]
  exact ⟨Pointer.descend_injective, congrArg _⟩

/-- A pointer into the definitions goes to the container first, then to the name that it is taken
apart into, and then on as the part below the name says. -/
theorem segments_of_split? {text name tail : String} (h : split? text = some (name, tail)) :
    (∃ chars, text.toList = '#' :: '/' :: chars) ∧
      Pointer.segments text = "components" :: "schemas" :: name :: Pointer.segments tail := by
  obtain ⟨head, hhead, rfl, htext, htail⟩ := exists_head_of_split? h
  have hstart : start.toList =
      '#' :: '/' :: ("components".toList ++ '/' :: ("schemas".toList ++ ['/'])) := by
    decide +kernel
  have hchars : text.toList = '#' :: '/' :: ("components".toList ++
      '/' :: ("schemas".toList ++ '/' :: (head ++ tail.toList))) := by
    rw [htext, hstart]
    simp
  have hbody : Pointer.body text = '/' :: ("components".toList ++
      '/' :: ("schemas".toList ++ '/' :: (head ++ tail.toList))) := by
    rw [Pointer.body, hchars]
    rfl
  refine ⟨⟨_, hchars⟩, ?_⟩
  rw [Pointer.segments_eq_map_parts, Pointer.parts_of_body hbody,
    Pointer.splitSlashes_part (by decide), Pointer.splitSlashes_part (by decide), List.map_cons,
    List.map_cons]
  -- Below the name there is nothing, or a slash and the other segments.
  cases hbelow : tail.toList with
  | nil =>
      obtain rfl : tail = "" := String.toList_inj.1 hbelow
      rw [List.append_nil, Pointer.splitSlashes_of_notMem hhead]
      rfl
  | cons c more =>
      obtain rfl : c = '/' := htail c (by rw [hbelow]; rfl)
      have hmore : Pointer.body tail = '/' :: more := by
        rw [Pointer.body, hbelow]
        rfl
      rw [Pointer.splitSlashes_part hhead, Pointer.segments_eq_map_parts tail,
        Pointer.parts_of_body hmore]
      rfl

/-- So what it points at, in any value, depends only on the name and the part below it. -/
theorem resolve?_eq_foldlM {text name tail : String} (h : split? text = some (name, tail))
    (root : Json) : Pointer.resolve? root text =
      ("components" :: "schemas" :: name :: Pointer.segments tail).foldlM Pointer.step? root := by
  obtain ⟨⟨chars, hchars⟩, hsegments⟩ := segments_of_split? h
  rw [Pointer.resolve?, hchars, hsegments]
  rfl

end SchemaRef

namespace Document

variable {document : Document}

theorem get?_toJson (document : Document) (name : String) : document.toJson.get? name =
    if name = "components" then some (.object document.components.entries)
    else document.rest.get? name :=
  document.rest.get?_insert "components" name _

theorem get?_components (document : Document) (name : String) : document.components.get? name =
    if name = "schemas" then some (.object document.definitions.entries)
    else document.sections.get? name :=
  document.sections.get?_insert "schemas" name _

/-- A pointer into a definition leads from that definition on. -/
theorem resolve?_of_split? {text name tail : String}
    (h : SchemaRef.split? text = some (name, tail)) :
    Pointer.resolve? document.toJson text = (document.definitions.get? name).bind fun body =>
      (Pointer.segments tail).foldlM Pointer.step? body := by
  have hcomponents : Pointer.step? document.toJson "components" =
      some (.object document.components.entries) :=
    document.get?_toJson "components"
  have hschemas : Pointer.step? (.object document.components.entries) "schemas" =
      some (.object document.definitions.entries) :=
    document.get?_components "schemas"
  rw [SchemaRef.resolve?_eq_foldlM h, List.foldlM_cons, hcomponents, Option.bind_eq_bind,
    Option.bind_some, List.foldlM_cons, hschemas, Option.bind_eq_bind, Option.bind_some,
    List.foldlM_cons]
  rfl

theorem resolves_of_split?_eq_none {root : Json} {reference : String}
    (h : SchemaRef.split? reference = none) : document.resolves root reference = true := by
  rw [resolves, h]

theorem resolves_of_split? {root : Json} {reference name : String}
    (h : SchemaRef.split? reference = some (name, "")) :
    document.resolves root reference = document.definitions.contains name := by
  rw [resolves, h]
  rfl

/-- A definition is found by its name exactly when the pointer to it leads somewhere, so looking up a
reference to a whole definition and resolving it as a pointer is the same. -/
theorem resolves_eq_isSome_resolve? {text name tail : String}
    (h : SchemaRef.split? text = some (name, tail)) :
    document.resolves document.toJson text = (Pointer.resolve? document.toJson text).isSome := by
  by_cases htail : tail = ""
  · subst htail
    have hwhole : Pointer.resolve? document.toJson text = document.definitions.get? name := by
      rw [resolve?_of_split? h]
      cases document.definitions.get? name <;> rfl
    rw [resolves_of_split? h, hwhole]
    rfl
  · rw [resolves, h]
    split
    case h_1 heq => cases heq
    case h_2 heq =>
      cases heq
      exact absurd rfl htail
    case h_3 => rfl

/-- A reference into a definition that is not there points at nothing. -/
theorem contains_of_resolves {text name tail : String}
    (hsplit : SchemaRef.split? text = some (name, tail))
    (h : document.resolves document.toJson text) : document.definitions.contains name := by
  rw [resolves_eq_isSome_resolve? hsplit, resolve?_of_split? hsplit] at h
  obtain ⟨value, hvalue⟩ := Option.isSome_iff_exists.1 h
  obtain ⟨body, hbody, _⟩ := Option.bind_eq_some_iff.1 hvalue
  exact NameMap.contains_iff.2 ⟨body, hbody⟩

end Document

end SchemaMerge
