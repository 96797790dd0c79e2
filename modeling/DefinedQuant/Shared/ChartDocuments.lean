import DefinedQuant.Shared.Charts

/-!
# Chart documents as XML

The document of a chart is read back line by line: every line is one element, and the text in it is
one text node. So the markup of a document is that of its lines, and a title with a character that
XML does not allow leaves a document that is not well formed.
-/

namespace Charts

open Xml
open Visualization
open Json (digitsText natDigits intToken skipSpace)

/-! ## Lines as elements -/

/-- What a line is read as: an element without content, or one with the text that was escaped. -/
inductive Line.ReadsAs : Line → Node → Prop where
  | empty {line : Line} (hTag : IsTag (py line.name) line.attributeTexts)
    (hContent : line.content = none) :
      ReadsAs line (.element (py line.name) line.attributeTexts [])
  | content {line : Line} {t : Text} (hTag : IsTag (py line.name) line.attributeTexts)
      (hContent : line.content = some (escape t)) (hChars : ∀ c ∈ t, isChar c = true) :
      ReadsAs line (.element (py line.name) line.attributeTexts (textNodes t))

/-- A line with content in front of other text. -/
theorem Line.text_append (line : Line) {content : Text} (h : line.content = some content)
    (rest : Text) :
    line.text ++ rest = lessThan :: (py line.name ++ line.attributeTexts.flatMap attributeText ++
      greaterThan :: (content ++ lessThan :: solidus :: (py line.name ++ [greaterThan] ++ rest))) :=
        by
  have hEnds : py ">" = [greaterThan] ∧ py "</" = [lessThan, solidus] := ⟨rfl, rfl⟩
  rw [Line.text, h, tagText, hEnds.1, hEnds.2]
  simp only [List.append_assoc, List.cons_append, List.nil_append]

/-- A line is read back as its node. -/
theorem Line.ReadsAs.readElement {line : Line} {node : Node} (h : line.ReadsAs node) (fuel : ℕ)
    (rest : Text) :
    ∃ t, line.text ++ rest = lessThan :: t ∧ t.head? ≠ some solidus ∧
      readElement (readNodes (fuel + 2)) t = some (node, rest) := by
  cases h with
  | empty hTag hContent =>
      have hText :
        line.text ++ rest = lessThan ::
          (py line.name ++ line.attributeTexts.flatMap attributeText ++
          ([solidus, greaterThan] ++ rest)) := by
        rw [Line.text, hContent, tagText, List.append_assoc, List.cons_append]
        rfl
      refine ⟨_, hText, ?_, readElement_empty hTag _ rest⟩
      rw [List.append_assoc]
      exact head?_tag hTag.name _
  | @content t hTag hContent hChars =>
      have hInner := readNodes_escape hChars fuel (py line.name ++ [greaterThan] ++ rest)
      refine ⟨_, line.text_append hContent rest, ?_, readElement_content hTag ?_⟩
      · rw [List.append_assoc]
        exact head?_tag hTag.name _
      · rw [hInner]
        simp only [List.append_assoc, List.cons_append, List.nil_append]

/-! ## The lines of a document -/

/-- The nodes of lines that each stand on a line of their own. -/
def bodyNodes (nodes : List Node) : List Node :=
  nodes.flatMap (fun node => [.text [lineFeed], node]) ++ [.text [lineFeed]]

/-- Lines are read as their elements, up to the end tag behind them. -/
theorem readNodes_lines {lines : List Line} {nodes : List Node}
    (h : List.Forall₂ Line.ReadsAs lines nodes)
    (rest : Text) : ∀ fuel, 2 * lines.length + 2 ≤ fuel →
      readNodes fuel (lines.flatMap (fun line => lineFeed :: line.text) ++ lineFeed :: lessThan ::
        solidus :: rest) =
        some (bodyNodes nodes, lessThan :: solidus :: rest) := by
  induction h with
  | nil =>
      intro fuel hFuel
      obtain ⟨fuel, rfl⟩ : ∃ n, fuel = n + 2 := ⟨fuel - 2, by omega⟩
      rw [List.flatMap_nil, List.nil_append, readNodes_lineFeed, readNodes_end]
      rfl
  | @cons line node lines nodes hLine _ ih =>
      intro fuel hFuel
      rw [List.length_cons] at hFuel
      obtain ⟨fuel, rfl⟩ : ∃ n, fuel = n + 4 := ⟨fuel - 4, by omega⟩
      obtain ⟨t, hText, hHead, hElement⟩ := hLine.readElement fuel
        (lines.flatMap (fun line => lineFeed :: line.text) ++ lineFeed :: lessThan ::
          solidus :: rest)
      have hLines : (line :: lines).flatMap (fun line => lineFeed :: line.text) ++
          lineFeed :: lessThan :: solidus :: rest = lineFeed :: lessThan :: t := by
        rw [List.flatMap_cons, List.append_assoc, List.cons_append, hText]
      rw [hLines, readNodes_lineFeed, readNodes_element hHead hElement (ih (fuel + 2) (by omega))]
      rfl

/-! ## The document -/

/-- Joined parts, the first apart. -/
theorem intercalate_cons_eq (separator : Text) (x : Text) (xs : List Text) :
    List.intercalate separator (x :: xs) = x ++ xs.flatMap (fun y => separator ++ y) := by
  induction xs generalizing x with
  | nil => simp
  | cons y ys ih => rw [List.intercalate_cons_cons, ih, List.flatMap_cons, List.append_assoc,
    List.append_assoc]

/-- The attributes of the `svg` element, as they are read. -/
def rootTexts {K : Type} (spec : VisualizationSpec K) : List (Text × Text) :=
  (rootAttributes spec).map (fun item => (py item.1, item.2))

/-- The lines of a document up to the end of the root. -/
def bodyText (lines : List Line) : Text :=
  lines.flatMap (fun line => lineFeed :: line.text) ++
    lineFeed :: lessThan :: solidus :: (py "svg" ++ [greaterThan, lineFeed])

/-- The root of a document behind its `<`. -/
def elementText {K : Type} (spec : VisualizationSpec K) (lines : List Line) : Text :=
  py "svg" ++ (rootTexts spec).flatMap attributeText ++ greaterThan :: bodyText lines

/-- The attributes of the declaration. -/
def declarationTexts : List (Text × Text) := [(py "version", py "1.0"), (py "encoding", py "UTF-8")]

/-- A document: the declaration and then the root element. -/
theorem document_eq {K : Type} (spec : VisualizationSpec K) (lines : List Line) :
    document spec lines = py "<?xml" ++ (declarationTexts.flatMap attributeText ++
      0x3F :: greaterThan :: lineFeed :: lessThan :: elementText spec lines) := by
  have hDeclaration : py "<?xml version=\"1.0\" encoding=\"UTF-8\"?>" =
      py "<?xml" ++ (declarationTexts.flatMap attributeText ++ [0x3F, greaterThan]) := by decide
  have hEnd : py "</svg>" = lessThan :: solidus :: (py "svg" ++ [greaterThan]) := rfl
  have hFeed : py "\n" = [lineFeed] := rfl
  have hGreater : py ">" = [greaterThan] := rfl
  rw [document, hFeed]
  simp only [List.cons_append, List.nil_append, intercalate_cons_eq]
  rw [hDeclaration, hEnd, hGreater, tagText]
  simp only [List.flatMap_cons, List.flatMap_append, List.flatMap_map, List.flatMap_nil,
    List.append_assoc, List.cons_append, List.nil_append, rootTexts, elementText, bodyText,
    List.append_nil]

/-! ## Texts of attributes -/

/-- A written integer is plain. -/
theorem isPlain_int (n : ℤ) : ∀ c ∈ int n, isPlain c = true := by
  have hSign : ∀ c ∈ (if (intToken n).negative then [0x2D] else [] : Text), isPlain c = true := by
    split_ifs
    · exact List.forall_mem_singleton.2 (by decide)
    · exact nofun
  have hParts : int n = (if (intToken n).negative then [0x2D] else []) ++
    digitsText (natDigits n.natAbs) := by
    rw [int, Json.NumberToken.text]
    simp [intToken, Json.fractionText, Json.exponentText]
  rw [hParts]
  exact isPlain_append hSign (isPlain_digitsText _)

/-- A character of an identifier is plain. -/
theorem isPlain_of_isIdChar {c : CodePoint} (h : c.isIdChar = true) : isPlain c = true := by
  have hMarkup : [lessThan, greaterThan, ampersand, quote, apostrophe].contains c = false := by
    rw [List.contains_eq_mem, decide_eq_false_iff_not]
    simp only [List.mem_cons, List.not_mem_nil, or_false]
    rintro (rfl | rfl | rfl | rfl | rfl)
    all_goals exact absurd h (by decide)
  simp only [CodePoint.isIdChar, CodePoint.isLower, CodePoint.isDigit, Bool.or_eq_true,
    Bool.and_eq_true, decide_eq_true_eq, beq_iff_eq] at h
  rw [isPlain, hMarkup, Bool.and_eq_true, Bool.and_eq_true, decide_eq_true_eq, decide_eq_true_eq]
  exact ⟨by omega, rfl⟩

/-- A safe id is plain. -/
theorem isPlain_of_isSafeId {id : Text} (h : Protocol.isSafeId id = true) :
    ∀ c ∈ id, isPlain c = true := by
  cases id with
  | nil => exact nofun
  | cons c id =>
      simp only [Protocol.isSafeId, Protocol.isIdentifier, Bool.and_eq_true, List.all_eq_true] at h
      obtain ⟨⟨hFirst, hRest⟩, -⟩ := h
      have hIdChar : c.isIdChar = true := by rw [CodePoint.isIdChar, hFirst, Bool.true_or,
        Bool.true_or]
      exact List.forall_mem_cons.2 ⟨isPlain_of_isIdChar hIdChar, fun d hd =>
        isPlain_of_isIdChar (hRest d hd)⟩

/-- A colour is plain. -/
theorem isPlain_color (index : ℕ) : ∀ c ∈ color index, isPlain c = true := by
  have hAll : ∀ name ∈ "" :: palette, (py name).all isPlain = true := by decide
  refine isPlain_py (hAll _ ?_)
  rw [List.getD_eq_getElem?_getD]
  cases hName : palette[index]? with
  | none => exact List.mem_cons_self
  | some name => exact List.mem_cons_of_mem _ (List.mem_of_getElem? hName)

/-! ## The document -/

/-- The root is a tag. -/
theorem isTag_root {K : Type} {spec : VisualizationSpec K}
    (hId : Protocol.isSafeId spec.id = true) :
    IsTag (py "svg") (rootTexts spec) where
  name := by decide
  names := by
    intro item hItem
    obtain ⟨pair, hPair, rfl⟩ := List.mem_map.1 hItem
    have hNames : ∀ name ∈ ["xmlns", "width", "height", "viewBox", "role", "aria-labelledby"],
        isName (py name) = true := by decide
    exact hNames _ (List.mem_map_of_mem hPair)
  distinct := by
    have hNames :
      (["xmlns", "width", "height", "viewBox", "role", "aria-labelledby"].map py).Nodup := by decide
    have hRoot : (rootTexts spec).map Prod.fst =
        ["xmlns", "width", "height", "viewBox", "role", "aria-labelledby"].map py := by
      simp only [rootTexts, rootAttributes, fixed, List.map_cons, List.map_nil]
    rw [hRoot]
    exact hNames
  values := by
    have hPlainId := isPlain_of_isSafeId hId
    intro item hItem
    obtain ⟨pair, hPair, rfl⟩ := List.mem_map.1 hItem
    simp only [rootAttributes, List.mem_cons, List.not_mem_nil, or_false] at hPair
    rcases hPair with rfl | rfl | rfl | rfl | rfl | rfl
    · exact isPlain_py (by decide)
    · exact isPlain_int _
    · exact isPlain_int _
    · exact isPlain_append (isPlain_append (isPlain_append (isPlain_py (by decide)) (isPlain_int _))
        (isPlain_py (by decide))) (isPlain_int _)
    · exact isPlain_py (by decide)
    · exact isPlain_append
        (isPlain_append (isPlain_append (isPlain_append hPlainId (isPlain_py (by decide)))
        (isPlain_py (by decide))) hPlainId) (isPlain_py (by decide))

/-- A document has at least two characters for each line, which bounds the fuel of the reader. -/
theorem length_lines (lines : List Line) :
    2 * lines.length ≤ (lines.flatMap (fun line => lineFeed :: line.text)).length := by
  induction lines with
  | nil => exact le_rfl
  | cons line lines ih =>
      have hLine : 1 ≤ line.text.length := Nat.succ_pos _
      rw [List.flatMap_cons, List.length_append, List.length_cons, List.length_cons]
      omega

/-- Behind the declaration a document is its root. -/
theorem readDocument_eq {K : Type} (spec : VisualizationSpec K) (lines : List Line) :
    readDocument (document spec lines) =
      (readElement (readNodes ((elementText spec lines).length + 1)) (elementText spec lines)).bind
        (fun read => if skipSpace read.2 = [] then some read.1 else none) := by
  have hVersion : ∀ item ∈ declarationTexts, isName item.1 = true ∧ ∀ c ∈ item.2,
    isPlain c = true := by
    refine List.forall_mem_cons.2 ⟨⟨by decide, isPlain_py (by decide)⟩,
      List.forall_mem_singleton.2 ⟨by decide, ?_⟩⟩
    exact isPlain_py (by decide)
  rw [document_eq]
  generalize elementText spec lines = element
  have hAttributes := readAttributes_text (fun item h => (hVersion item h).1) (fun item h =>
    (hVersion item h).2)
    (by decide : Json.isSpace 0x3F = false) (greaterThan :: lineFeed :: lessThan :: element)
  have hDeclaration : readDeclaration (py "<?xml" ++ (declarationTexts.flatMap attributeText ++
      0x3F :: greaterThan :: lineFeed :: lessThan :: element)) =
        some (lineFeed :: lessThan :: element) := by
    rw [readDeclaration, Json.strip_append]
    dsimp only
    rw [hAttributes]
    · rfl
    · rw [List.length_append]
      exact Nat.succ_le_succ (le_trans (by decide) (Nat.le_add_right _ _))
  rw [readDocument, hDeclaration]
  rfl

/-- A document of lines is read as its root with their elements. -/
theorem readDocument_document {K : Type} {spec : VisualizationSpec K}
    (hId : Protocol.isSafeId spec.id = true)
    {lines : List Line} {nodes : List Node} (h : List.Forall₂ Line.ReadsAs lines nodes) :
    readDocument (document spec lines) = some (.element (py "svg") (rootTexts spec)
      (bodyNodes nodes)) := by
  have hLong : 2 * lines.length + 2 ≤ (elementText spec lines).length + 1 := by
    have hFewer := length_lines lines
    rw [elementText, bodyText, List.length_append, List.length_append, List.length_cons,
      List.length_append, List.length_cons]
    omega
  have hContent := readNodes_lines h (py "svg" ++ [greaterThan, lineFeed]) _ hLong
  have hRoot : readElement (readNodes ((elementText spec lines).length + 1))
    (elementText spec lines) =
      some (.element (py "svg") (rootTexts spec) (bodyNodes nodes), [lineFeed]) := by
    refine readElement_content (isTag_root hId) ?_
    rw [bodyText, hContent]
    rfl
  rw [readDocument_eq, hRoot]
  rfl

/-! ## What is read -/

/-- The element of a line without its text. -/
def Line.tag (line : Line) : Node := .element (py line.name) line.attributeTexts []

/-- The markup of a line is its tag. -/
theorem Line.ReadsAs.markup {line : Line} {node : Node} (h : line.ReadsAs node) :
    node.markup = [line.tag] := by
  cases h with
  | empty => rw [Node.markup, markupOf, Line.tag]
  | content => rw [Node.markup, markupOf_textNodes, Line.tag]

/-- The markup of the body is the tags of its lines. -/
theorem markupOf_bodyNodes {lines : List Line} {nodes : List Node}
    (h : List.Forall₂ Line.ReadsAs lines nodes) :
    markupOf (bodyNodes nodes) = lines.map Line.tag := by
  induction h with
  | nil => rfl
  | @cons line node lines nodes hLine _ ih =>
      have hBody : bodyNodes (node :: nodes) = .text [lineFeed] :: node :: bodyNodes nodes := by
        rw [bodyNodes, List.flatMap_cons, List.append_assoc]
        rfl
      rw [hBody, markupOf, markupOf, ih, hLine.markup, Node.markup, List.map_cons]
      rfl

/-- The markup of a document is that of its lines. -/
theorem markup_document {K : Type} {spec : VisualizationSpec K} {lines : List Line}
    {nodes : List Node} (h : List.Forall₂ Line.ReadsAs lines nodes) :
    (Node.element (py "svg") (rootTexts spec) (bodyNodes nodes)).markup =
      [.element (py "svg") (rootTexts spec) (lines.map Line.tag)] := by
  rw [Node.markup, markupOf_bodyNodes h]

/-- The contents of a document are those of its body. -/
theorem contents_document {K : Type} (spec : VisualizationSpec K) (name : Text)
    (nodes : List Node) :
    (Node.element (py "svg") (rootTexts spec) (bodyNodes nodes)).contents name = contentsOf name
      nodes := by
  show contentsOf name (bodyNodes nodes) = contentsOf name nodes
  induction nodes with
  | nil => rfl
  | cons node nodes ih =>
      have hBody : bodyNodes (node :: nodes) = .text [lineFeed] :: node :: bodyNodes nodes := by
        rw [bodyNodes, List.flatMap_cons, List.append_assoc]
        rfl
      have hRest : contentsOf name (.text [lineFeed] :: node :: bodyNodes nodes) =
          contentsOf name [node] ++ contentsOf name (bodyNodes nodes) := by
        rw [contentsOf, List.filterMap_cons_none rfl, ← List.singleton_append,
          List.filterMap_append]
        rfl
      rw [hBody, hRest, ih]
      exact (List.filterMap_append (l := [node])).symm

/-- Lines of other names add nothing. -/
theorem contentsOf_lines {lines : List Line} {nodes : List Node}
    (h : List.Forall₂ Line.ReadsAs lines nodes)
    {name : Text} (hNames : ∀ line ∈ lines, py line.name ≠ name) : contentsOf name nodes = [] := by
  induction h with
  | nil => rfl
  | @cons line node lines nodes hLine _ ih =>
      obtain ⟨hFirst, hRest⟩ := List.forall_mem_cons.1 hNames
      cases hLine with
      | empty => rw [contentsOf_element, if_neg hFirst, ih hRest]
      | content => rw [contentsOf_element, if_neg hFirst, ih hRest]

/-- The elements of lines and their attributes. -/
def tags (lines : List Line) : List Node := lines.map Line.tag

/-- The tags of concatenated lines. -/
theorem tags_append (lines rest : List Line) : tags (lines ++ rest) = tags lines ++ tags rest :=
  List.map_append

/-- Lines with the same tags for each item have the same tags. -/
theorem tags_flatMap {α : Type} {f g : α → List Line} (items : List α)
    (h : ∀ item, tags (f item) = tags (g item)) :
    tags (items.flatMap f) = tags (items.flatMap g) := by
  unfold tags at h ⊢
  rw [List.map_flatMap, List.map_flatMap]
  exact List.flatMap_congr (fun item _ => h item)

/-! ## The title and the description -/

/-- The title and the description. -/
def headings {K : Type} (spec : VisualizationSpec K) : List Line :=
  [⟨"title", [("id", spec.id ++ py "_title")], some (escape spec.title)⟩,
    ⟨"desc", [("id", spec.id ++ py "_description")], some (escape (description spec))⟩]

/-- A heading with its id is a tag. -/
theorem isTag_heading {name suffix : String} (hName : isName (py name) = true)
    (hSuffix : (py suffix).all isPlain = true) {id : Text} (hId : Protocol.isSafeId id = true) :
    IsTag (py name) [(py "id", id ++ py suffix)] where
  name := hName
  names := List.forall_mem_singleton.2 (by decide : isName (py "id") = true)
  distinct := List.nodup_singleton _
  values :=
    List.forall_mem_singleton.2 (isPlain_append (isPlain_of_isSafeId hId) (isPlain_py hSuffix))

/-- A chart whose title has such a character is no XML document. -/
theorem readDocument_eq_none {K : Type} {spec : VisualizationSpec K}
    (hId : Protocol.isSafeId spec.id = true) (h : ¬ Allowed spec.title) (lines : List Line) :
    readDocument (document spec (headings spec ++ lines)) = none := by
  have hTag : IsTag (py "title") [(py "id", spec.id ++ py "_title")] :=
    isTag_heading (by decide) (by decide) hId
  obtain ⟨rest, hBody⟩ : ∃ rest, bodyText (headings spec ++ lines) = lineFeed :: lessThan ::
    (py "title" ++
      [(py "id", spec.id ++ py "_title")].flatMap attributeText ++
      greaterThan :: (escape spec.title ++ lessThan :: rest)) := by
    have hTitle := Line.text_append ⟨"title", [("id", spec.id ++ py "_title")],
      some (escape spec.title)⟩ rfl
      (bodyText ((headings spec).tail ++ lines))
    refine ⟨solidus :: (py "title" ++ [greaterThan] ++ bodyText ((headings spec).tail ++ lines)),
      ?_⟩
    refine Eq.trans ?_ (congrArg (List.cons lineFeed) hTitle)
    rw [bodyText, bodyText, ← List.append_assoc]
    rfl
  -- behind the line feed stands the title, whose text is not read
  have hContent (fuel : ℕ) : readNodes fuel (bodyText (headings spec ++ lines)) = none := by
    rw [hBody]
    rcases fuel with - | - | fuel
    · rfl
    · rw [readNodes_lineFeed]
      rfl
    · rw [readNodes_lineFeed, readNodes, if_pos rfl, if_neg, readElement_eq_none hTag]
      · rfl
      · exact readNodes_escape_eq_none h rest fuel
      · rw [List.append_assoc]
        exact head?_tag hTag.name _
  rw [readDocument_eq]
  have hRoot :=
    readElement_eq_none (isTag_root hId)
      (hContent ((elementText spec (headings spec ++ lines)).length + 1))
  rw [elementText] at hRoot ⊢
  rw [hRoot]
  rfl

end Charts
