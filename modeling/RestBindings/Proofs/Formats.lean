import RestBindings.Proofs.Hosts
import RestBindings.Proofs.Loading
import RestBindings.Proofs.Utf8

/-!
# Files and pages of one name

Whether a text is decoded as YAML or as JSON depends on the name of its source, and there are two
rules for it. The suffix of a file counts in any letter case (`formatOfFile_ofText`). The ending of
a URL counts as it is written, and a name that is nothing but such an ending counts too
(`formatOfResponse_pageOf`). `SameRule` is what a name needs for both rules to give one format
(`formats_eq_iff`).

The rest of loading names its source in reports and does not depend on it otherwise
(`interpret_alike_or`). So a file and a page of one name and one text come to the same exactly when
the name is decoded by one rule, `load_alike_iff`.
-/

namespace RestBindings

/-! ## Endings of texts -/

namespace Text

variable {sep : Char} {s t : List Char}

/-- A text that has a separator is cut at its last one. -/
theorem exists_last_of_mem (h : sep ∈ s) :
    ∃ front behind, s = front ++ sep :: behind ∧ sep ∉ behind := by
  obtain ⟨behind, front, hsplit, hbehind⟩ := List.eq_append_cons_of_mem (List.mem_reverse.mpr h)
  refine ⟨front.reverse, behind.reverse, ?_, mt List.mem_reverse.mp hbehind⟩
  rw [← List.reverse_reverse s, hsplit]
  simp

/-- An ending without the separator stands behind the separator. -/
theorem suffix_append_cons_iff (h : sep ∉ t) (front : List Char) :
    t <:+ front ++ sep :: s ↔ t <:+ s := by
  have hbehind : sep :: s <:+ front ++ sep :: s := List.suffix_append _ _
  constructor
  · intro ht
    rcases List.suffix_or_suffix_of_suffix ht hbehind with hshort | hlong
    · rcases List.suffix_cons_iff.mp hshort with rfl | hs
      · exact absurd List.mem_cons_self h
      · exact hs
    · exact absurd (hlong.subset List.mem_cons_self) h
  · exact fun ht => (ht.trans (List.suffix_cons sep s)).trans hbehind

end Text

namespace Files.Path

variable {name behind ending : List Char}

/-- The suffix by what stands behind the last dot. -/
theorem suffixOf_eq (name : List Char) : suffixOf name =
    if (Text.afterLast '.' name).isEmpty || (Text.afterLast '.' name).length + 1 ≥ name.length
    then [] else '.' :: Text.afterLast '.' name :=
  rfl

/-- A name without a dot has no suffix. -/
theorem suffixOf_of_notMem (h : '.' ∉ name) : suffixOf name = [] := by
  rw [suffixOf_eq, Text.afterLast_of_notMem h]
  simp

/-- The suffix begins at the last dot, if that dot is neither the first nor the last character. -/
theorem suffixOf_append_cons (h : '.' ∉ behind) (front : List Char) :
    suffixOf (front ++ '.' :: behind) = if front = [] ∨ behind = [] then [] else '.' :: behind := by
  have hlength : behind.length + 1 ≥ (front ++ '.' :: behind).length ↔ front = [] := by
    rw [List.length_append, List.length_cons, ← List.length_eq_zero_iff]
    omega
  rw [suffixOf_eq, Text.afterLast_append_cons h]
  simp only [List.isEmpty_iff, Bool.or_eq_true, decide_eq_true_eq, hlength, or_comm]

/-- A name ends with a dot and a word exactly when these are its suffix, or the whole name. -/
theorem suffix_iff_suffixOf_eq (h : '.' ∉ ending) (hne : ending ≠ []) :
    '.' :: ending <:+ name ↔ suffixOf name = '.' :: ending ∨ name = '.' :: ending := by
  constructor
  · rintro ⟨front, rfl⟩
    rw [suffixOf_append_cons h]
    by_cases hfront : front = []
    · exact .inr (by rw [hfront, List.nil_append])
    · exact .inl (if_neg (not_or.mpr ⟨hfront, hne⟩))
  · rintro (hsuffix | rfl)
    · by_cases hdot : '.' ∈ name
      · obtain ⟨front, behind, rfl, hbehind⟩ := Text.exists_last_of_mem hdot
        rw [suffixOf_append_cons hbehind] at hsuffix
        split at hsuffix
        · cases hsuffix
        · exact hsuffix ▸ List.suffix_append _ _
      · rw [suffixOf_of_notMem hdot] at hsuffix
        cases hsuffix
    · exact List.suffix_rfl

end Files.Path

/-! ## Names -/

namespace Url

/-- The authority of a URL that can be cut stands behind its scheme. -/
theorem authority_of_split {url : List Char} {parts : Parts} (h : split url = .ok parts) :
    parts.authority = (splitAuthority (splitScheme (significant url)).2).1 := by
  unfold split at h
  cases hbrackets : checkBrackets (splitAuthority (splitScheme (significant url)).2).1 with
  | error e =>
      simp only [hbrackets] at h
      cases h
  | ok _ =>
      cases hdelimiters : checkDelimiters (splitAuthority (splitScheme (significant url)).2).1 with
      | error e =>
          simp only [hbrackets, hdelimiters] at h
          cases h
      | ok _ =>
          simp only [hbrackets, hdelimiters] at h
          cases h
          rfl

/-- A text without slashes has no authority. -/
theorem splitAuthority_of_notMem {s : List Char} (h : '/' ∉ s) : (splitAuthority s).1 = [] := by
  unfold splitAuthority
  split
  · exact absurd List.mem_cons_self h
  · rfl

/-- Only a text with a slash is fetched. -/
theorem slash_of_isFetchable {text : String} (h : isFetchable text = true) :
    '/' ∈ text.toList := by
  by_contra hslash
  have hsignificant : '/' ∉ significant text.toList := fun hmem =>
    hslash ((List.dropWhile_sublist _).subset (List.mem_filter.mp hmem).1)
  have htail : '/' ∉ (splitScheme (significant text.toList)).2 := by
    rw [splitScheme]
    split
    · exact fun hmem => hsignificant
        ((List.dropWhile_sublist _).subset (List.mem_of_mem_drop hmem))
    · exact hsignificant
  unfold isFetchable at h
  split at h
  · next parts hparts =>
      rw [authority_of_split hparts, splitAuthority_of_notMem htail] at h
      simp at h
  · cases h

end Url

namespace Discovery

open Files (Path)

/-- A name under which there can be a file as well as a page: it has none of the characters at
which a path or a URL is cut, and no control or space. -/
structure PlainName (name : String) : Prop where
  counts : Path.counts name = true
  stays : name ≠ ".."
  plain : ∀ c ∈ name.toList, 0x20 < c.toNat ∧ c.toNat ≠ 0x7F ∧ c ∉ ['/', '?', '#']

/-- The URL of the page of a name. -/
def pageOf (name : String) : String := "https://example.com/" ++ name

theorem toList_pageOf (name : String) :
    (pageOf name).toList = "https://example.com".toList ++ '/' :: name.toList := by
  unfold pageOf
  simp

/-- The parts of the URL of a page. -/
def pageUrl (name : String) : Url.BaseUrl :=
  .bare "https".toList (by decide)
    [⟨"example".toList, by decide, Unicode.forall_of_all (by decide)⟩,
      ⟨"com".toList, by decide, Unicode.forall_of_all (by decide)⟩]
    (List.cons_ne_nil _ _) ('/' :: name.toList) <| by
      intro c hc
      obtain rfl := Option.some.inj hc
      rfl

variable {name : String}

/-- A page is fetched. -/
theorem isFetchable_pageOf (name : String) : Url.isFetchable (pageOf name) = true := by
  have hauthority : (pageUrl name).authority = "example.com".toList := by
    -- the authority does not depend on the name
    change (pageUrl "").authority = "example.com".toList
    decide +kernel
  have hchars : (pageUrl name).text.toList = "https".toList ++ "://".toList ++
      (pageUrl name).authority ++ '/' :: name.toList := String.toList_ofList
  have htext : (pageUrl name).text = pageOf name := by
    rw [hauthority] at hchars
    refine String.toList_inj.mp (hchars.trans ?_)
    rw [toList_pageOf]
    simp
  unfold Url.isFetchable
  rw [← htext, (pageUrl name).split_text]
  simp only [hauthority]
  rfl

namespace PlainName

variable (h : PlainName name)

include h

theorem slash_notMem : '/' ∉ name.toList := fun hslash =>
  (h.plain _ hslash).2.2 List.mem_cons_self

/-- A file is not fetched. -/
theorem isFetchable_eq_false : Url.isFetchable name = false := by
  rw [Bool.eq_false_iff]
  exact fun hurl => h.slash_notMem (Url.slash_of_isFetchable hurl)

/-- The name is one step of a path. -/
theorem cut_eq : Text.cut '/' name = [name] := by
  rw [Text.cut, Text.splitOn_of_notMem h.slash_notMem, List.map_singleton, String.ofList_toList]

/-- The path of a file is its name. -/
theorem ofText_eq : Path.ofText name = ⟨"", [name]⟩ := by
  have hroot : Path.rootOf name = "" := by
    have hslash := h.slash_notMem
    unfold Path.rootOf
    split
    iterate 3 exact absurd (by simp_all) hslash
    rfl
  have hcomponents : Path.componentsOf name = [name] := by
    rw [Path.componentsOf, h.cut_eq, List.filter_singleton, h.counts]
    rfl
  rw [Path.ofText, hroot, hcomponents]

/-- The text of the path of a file is its name. -/
theorem text_ofText : (Path.ofText name).text = name := by
  rw [h.ofText_eq]
  simp [Path.text, Text.join, Text.joinWith]

end PlainName

/-! ## The two rules -/

/-- The endings of the names of documents in YAML. -/
def yamlEndings : List (List Char) := [".yaml".toList, ".yml".toList]

/-- An ending is a dot and a word. -/
theorem of_mem_yamlEndings : ∀ ending ∈ yamlEndings, ending = '.' :: ending.tail ∧
    '.' ∉ ending.tail ∧ ending.tail ≠ [] ∧ '/' ∉ ending := by
  decide

/-- A file is in YAML if its suffix is an ending of YAML in lower case. -/
theorem formatOfFile_ofText (h : PlainName name) : formatOfFile (Path.ofText name) =
    if Unicode.lower (Path.suffixOf name.toList) ∈ yamlEndings then .yaml else .json := by
  have hsuffix : (Path.ofText name).suffix.toList = Path.suffixOf name.toList := by
    rw [h.ofText_eq]
    exact String.toList_ofList
  unfold formatOfFile
  simp only [hsuffix, ← String.toList_inj, String.toList_ofList, yamlEndings, List.mem_cons,
    List.not_mem_nil, or_false]

/-- The format of the page of a name: YAML if its suffix is an ending of YAML, or the name itself
is one. -/
def formatOfPage (name : String) : Format :=
  if Path.suffixOf name.toList ∈ yamlEndings ∨ name.toList ∈ yamlEndings then .yaml else .json

/-- A page has the format of its name, unless a header says more. -/
theorem formatOfResponse_pageOf {response : Http.Response}
    (hplain : response.header? "content-type" = none) :
    formatOfResponse (pageOf name) response = formatOfPage name := by
  have hends : ∀ ending ∈ yamlEndings, ending <:+ (pageOf name).toList ↔
      Path.suffixOf name.toList = ending ∨ name.toList = ending := by
    intro ending hending
    obtain ⟨hshape, hdot, hne, hslash⟩ := of_mem_yamlEndings ending hending
    rw [toList_pageOf, Text.suffix_append_cons_iff hslash, hshape]
    exact Path.suffix_iff_suffixOf_eq hdot hne
  have hyaml := hends ".yaml".toList (by decide)
  have hyml := hends ".yml".toList (by decide)
  have hnone : Text.occursIn "yaml".toList "".toList = false := by decide
  unfold formatOfResponse formatOfPage
  simp only [hplain, Option.getD_none, hnone, Bool.false_or, Bool.or_eq_true,
    List.isSuffixOf_iff_suffix, hyaml, hyml, yamlEndings, List.mem_cons, List.not_mem_nil, or_false]
  simp only [or_or_or_comm]

/-- What a name needs for a file and a page to be decoded by one rule: it is no ending alone, and
its suffix is written in lower case if it is one of YAML. -/
def SameRule (name : String) : Prop :=
  name.toList ∉ yamlEndings ∧
    (Unicode.lower (Path.suffixOf name.toList) ∈ yamlEndings →
      Path.suffixOf name.toList ∈ yamlEndings)

instance (name : String) : Decidable (SameRule name) :=
  inferInstanceAs (Decidable (_ ∧ (_ → _)))

/-- **Both rules give one format exactly to the names with one rule.** -/
theorem formats_eq_iff (h : PlainName name) :
    formatOfFile (Path.ofText name) = formatOfPage name ↔ SameRule name := by
  -- in lower case already, an ending of YAML is one for files
  have hlower : Path.suffixOf name.toList ∈ yamlEndings →
      Unicode.lower (Path.suffixOf name.toList) ∈ yamlEndings := by
    have hall : ∀ ending ∈ yamlEndings, Unicode.lower ending ∈ yamlEndings := by decide +kernel
    exact hall _
  -- an ending alone begins with its only dot, so it is no suffix
  have halone : name.toList ∈ yamlEndings →
      Unicode.lower (Path.suffixOf name.toList) ∉ yamlEndings := by
    have hall : ∀ ending ∈ yamlEndings,
        Unicode.lower (Path.suffixOf ending) ∉ yamlEndings := by decide +kernel
    exact hall _
  rw [formatOfFile_ofText h, formatOfPage, SameRule]
  constructor
  · intro heq
    constructor
    · intro hname
      rw [if_neg (halone hname), if_pos (.inr hname)] at heq
      cases heq
    · intro hfile
      by_contra hpage
      have hname : name.toList ∉ yamlEndings := fun hname => halone hname hfile
      rw [if_pos hfile, if_neg (not_or.mpr ⟨hpage, hname⟩)] at heq
      cases heq
  · rintro ⟨hname, hcase⟩
    by_cases hpage : Path.suffixOf name.toList ∈ yamlEndings
    · rw [if_pos (hlower hpage), if_pos (.inl hpage)]
    · rw [if_neg (mt hcase hpage), if_neg (not_or.mpr ⟨hpage, hname⟩)]

example : SameRule "disks.yml" ∧ ¬ SameRule "disks.YML" ∧ ¬ SameRule ".yml" := by decide +kernel

/-! ## Loading one text under one name -/

variable {sources : Sources} {text a b : String} {format : Format} {d : Document}

/-- A text is what the file of a name holds and what its page is answered with, and no header says
which kind of text it is. -/
structure Serves [Http.Client] (sources : Sources) (name text : String) : Prop where
  file : sources.tree.readBytes name = .ok text.toUTF8
  accepted : Http.Client.refusal? (pageOf name) = none
  page : ∃ response, Http.request sources.web
      (String.ofList (Url.normalForm (pageOf name).toList)) = .ok response ∧
    response.status = 200 ∧ response.header? "content-type" = none ∧ response.body = text.toUTF8
  noReturn : '\r' ∉ text.toList

section

variable [Http.Client]

/-- A successful response that names no other location is what fetching gives. -/
theorem fetch_of_request {web : Http.Web} {source : String} {response : Http.Response}
    (haccepted : Http.Client.refusal? source = none)
    (hrequest : Http.request web (String.ofList (Url.normalForm source.toList)) = .ok response)
    (hstatus : response.status = 200) (follows : Bool) :
    Http.fetch web follows source = .ok response := by
  have hredirect : response.redirect? = none := by
    rw [Http.Response.redirect?, hstatus]
    rfl
  have hcheck (url : String) : Http.checkStatus response url = .ok response := by
    rw [Http.checkStatus, hstatus]
    rfl
  cases follows with
  | false =>
      simp only [Http.fetch, haccepted, Bool.false_eq_true, if_false, Http.requestOnce, hrequest,
        hredirect, hcheck]
  | true =>
      have hfollow (left : Nat) : Http.follow web (left + 1)
          (String.ofList (Url.normalForm source.toList)) =
            .ok (response, String.ofList (Url.normalForm source.toList)) := by
        rw [Http.follow, hrequest]
        simp only [hredirect]
      have hlimited := hfollow 20
      simp only [Http.fetch, haccepted, Http.requestLimit, hlimited, hcheck, if_true]

/-- A body whose kind is not told is read as UTF-8. -/
theorem text_of_plain {response : Http.Response} (hplain : response.header? "content-type" = none)
    (hbody : response.body = text.toUTF8) : response.text = .ok text := by
  rw [Http.Response.text, hplain, hbody, Text.decodeLossy_toUTF8]
  rfl

variable [Interpreter]

/-- What an acquired text comes to. -/
def interpret (text : String) (format : Format) (source : String) : Except Error Document :=
  (decode source text format).bind (accept source)

/-- Loading interprets the acquired text. -/
theorem load_of_acquire {source : String} (h : acquire sources source = .ok (text, format)) :
    load sources source = interpret text format source := by
  rw [load_eq, h]
  rfl

namespace Serves

variable (hs : Serves sources name text)

include hs

/-- The file is interpreted in the format of files. -/
theorem load_file (h : PlainName name) :
    load sources name = interpret text (formatOfFile (Path.ofText name)) name := by
  apply load_of_acquire
  have htext : sources.tree.readText (Path.ofText name).text = .ok text := by
    rw [h.text_ofText, Files.Tree.readText, hs.file]
    simp only [Files.Tree.textOf, Text.fromUTF8?_toUTF8, Text.unifyLineEnds_of_notMem hs.noReturn,
      String.ofList_toList]
  have hfile : ¬ Url.isFetchable name = true := by
    rw [h.isFetchable_eq_false]
    exact Bool.false_ne_true
  unfold acquire readFile
  rw [if_neg hfile]
  simp only [htext]

/-- The page is interpreted in the format of pages. -/
theorem load_page :
    load sources (pageOf name) = interpret text (formatOfPage name) (pageOf name) := by
  apply load_of_acquire
  obtain ⟨response, hrequest, hstatus, hplain, hbody⟩ := hs.page
  unfold acquire readUrl
  rw [if_pos (isFetchable_pageOf name)]
  simp only [fetch_of_request hs.accepted hrequest hstatus, text_of_plain hplain hbody,
    formatOfResponse_pageOf hplain]

end Serves

end

/-- Two sources give one document, or a report each with the same list of errors. -/
inductive Alike (a b : String) : Except Error Document → Except Error Document → Prop
  | document (d : Document) : Alike a b (.ok d) (.ok d)
  | malformed (errors : List String) : Alike a b (.error (.failure (.malformed a errors)))
      (.error (.failure (.malformed b errors)))
  | malformedYaml : Alike a b (.error (.malformedYaml a)) (.error (.malformedYaml b))

/-- A value is accepted alike from two sources. -/
theorem alike_accept (a b : String) (v : Value) : Alike a b (accept a v) (accept b v) := by
  cases v with
  | mapping entries =>
      simp only [accept]
      cases readDocument (.mapping entries) with
      | valid d => exact .document d
      | invalid problems => exact .malformed (problems.map problemLine)
  | _ => exact .malformed ["document root must be an object"]

/-- A text is interpreted alike from two sources, or with one error that is no report. -/
theorem interpret_alike_or [Http.Client] [Interpreter] (text : String) (format : Format)
    (a b : String) :
    Alike a b (interpret text format a) (interpret text format b) ∨
      ∃ e, interpret text format a = .error e ∧ interpret text format b = .error e ∧
        ∀ sources, ¬ Settled sources a (.error e) := by
  unfold interpret decode
  cases exhaustion? text format with
  | some message => exact .inr ⟨_, rfl, rfl, fun _ => nofun⟩
  | none =>
  unfold decodeNotation
  cases format with
  | json =>
      cases Json.read text with
      | ok v => exact .inl (alike_accept a b v)
      | error cause =>
          cases cause with
          | malformed message line column offset => exact .inl (.malformed _)
          | longInteger digits => exact .inr ⟨_, rfl, rfl, fun _ => nofun⟩
  | yaml =>
      cases Yaml.read text with
      | ok v => exact .inl (alike_accept a b v)
      | error cause =>
          by_cases hcause : cause = .malformed
          · subst hcause
            exact .inl .malformedYaml
          · right
            refine ⟨.yaml cause, ?_, ?_, fun _ => nofun⟩
            all_goals cases cause <;> simp_all [Except.bind]

/-! ## One rule, one document -/

/-- A text with a document in YAML and none in JSON. -/
def baseText : String := "baseUrl: http://api/\n"

/-- The value of this text in YAML. -/
def baseValue : Value := .mapping [(.text "baseUrl", .scalar (.text "http://api/"))]

/-- The document of this value. -/
def baseDocument : Document := ⟨"http://api/", none, none, none, [], []⟩

open Yaml in
/-- Reading this text as YAML. The values of nodes come from a recursion that does not compute, so
the tokens and the node are computed and the value is read off its equations. -/
theorem read_baseText : Yaml.read baseText = .ok baseValue := by
  have htokens : tokens baseText.toList = ([.blockMappingStart, .key, .scalar "baseUrl" true,
      .value, .scalar "http://api/" true, .blockEnd], none) := by
    decide +kernel
  have htags : Tag.ofPlain "baseUrl" = Tag.text ∧ Tag.ofPlain "http://api/" = Tag.text := by
    decide +kernel
  have hnames : standardName Tag.mapping = "map" ∧ standardName Tag.text = "str" := by
    decide +kernel
  have hother : Tag.text ≠ Tag.merge ∧ Tag.text ≠ Tag.value := by decide +kernel
  have hnode : Node.ofTokens (tokens baseText.toList).1 (tokens baseText.toList).2 =
      .ok (some (.mapping Tag.mapping [(.scalar (Tag.ofPlain "baseUrl") "baseUrl",
        .scalar (Tag.ofPlain "http://api/") "http://api/")])) := by
    rw [htokens]
    rfl
  rw [htags.1, htags.2] at hnode
  have hscalar (text : String) :
      Node.value (.scalar Tag.text text) = .ok (.scalar (.text text)) := by
    rw [Node.value, scalarOf, hnames.2]
    rfl
  have hown : Node.ownEntries [(.scalar Tag.text "baseUrl", .scalar Tag.text "http://api/")] =
      .ok [(.text "baseUrl", .scalar (.text "http://api/"))] := by
    rw [Node.ownEntries, Node.tag, if_neg hother.1, if_neg hother.2, hscalar, hscalar,
      Node.ownEntries]
    rfl
  have hmerged : Node.mergedEntries [(.scalar Tag.text "baseUrl", .scalar Tag.text "http://api/")] =
      .ok [] := by
    rw [Node.mergedEntries, Node.tag, if_neg hother.1, Node.mergedEntries]
    rfl
  have hallowed : baseText.toList.all isAllowed = true := by decide +kernel
  unfold Yaml.read
  simp only [hallowed, if_true, hnode]
  rw [Node.value, hnames.1]
  simp only [Node.storedEntries, hown, hmerged]
  rfl

/-- In YAML the text has its document. -/
theorem interpret_baseText_yaml (source : String) :
    interpret baseText .yaml source = .ok baseDocument := by
  unfold interpret decode decodeNotation
  simp only [read_baseText]
  rfl

/-- In JSON the text is malformed. -/
theorem interpret_baseText_json (source : String) : interpret baseText .json source =
    .error (.failure (.malformed source ["Expecting value: line 1 column 1 (char 0)"])) :=
  rfl

/-- The authority of the page of a name. -/
theorem authority_pageOf (h : PlainName name) :
    (Url.Reference.ofText (pageOf name).toList).authority = some "example.com".toList := by
  have hscheme : Url.splitScheme (pageOf name).toList =
      ("https".toList, "//example.com".toList ++ '/' :: name.toList) := by
    rw [toList_pageOf]
    rfl
  have hmark (mark : Char) (hmark : mark ∈ ['?', '#']) :
      mark ∉ "//example.com".toList ++ '/' :: name.toList := by
    have hfront : ∀ mark ∈ ['?', '#'], mark ∉ "//example.com/".toList :=
      Unicode.forall_of_all (by decide)
    intro hmem
    rw [List.append_cons] at hmem
    rcases List.mem_append.mp hmem with hbase | hname
    · exact hfront mark hmark hbase
    · exact (h.plain _ hname).2.2 (List.mem_cons_of_mem _ hmark)
  unfold Url.Reference.ofText
  rw [hscheme]
  simp only [Text.before_of_notMem (hmark '#' (by decide)),
    Text.before_of_notMem (hmark '?' (by decide))]
  rfl

/-- The client of the program itself does not refuse the page of a name. -/
theorem refusal_pageOf (h : PlainName name) : Http.Client.refusal? (pageOf name) = none := by
  have hcontrol : Http.controlFault? (pageOf name) = none := by
    have hbase : ∀ c ∈ "https://example.com/".toList, ¬ Http.isControl c = true :=
      Unicode.forall_of_all (by decide)
    refine Option.map_eq_none_iff.mpr (List.find?_eq_none.mpr fun c hc => ?_)
    rcases List.mem_append.mp (String.toList_append ▸ hc) with hfront | hname
    · exact hbase c hfront
    · have hplain := h.plain c hname
      simp only [Http.isControl, Bool.or_eq_true, decide_eq_true_eq, beq_iff_eq]
      omega
  have hport : Http.portFault? (pageOf name) = none := by
    rw [Http.portFault?, authority_pageOf h]
    rfl
  change (Http.controlFault? (pageOf name)).or (Http.portFault? (pageOf name)) = none
  rw [hcontrol, hport]
  rfl

/-- Sources that serve this text under a name. -/
def baseSources (name : String) : Sources where
  tree := ⟨[([name], .file baseText.toUTF8)], []⟩
  web := [(String.ofList (Url.normalForm (pageOf name).toList), ⟨200, [], baseText.toUTF8⟩)]
  followsRedirects := true

/-- They do serve it, unless the name is too long for a file. -/
theorem serves_baseSources (h : PlainName name)
    (hlength : name.utf8ByteSize ≤ Files.Tree.nameLimit) :
    Serves (baseSources name) name baseText where
  file := by
    have hnull : ¬ name.toList.contains '\x00' = true := fun hc =>
      absurd (h.plain _ (List.contains_iff_mem.mp hc)).1 (by decide)
    have hcounts : name ≠ "" ∧ name ≠ "." := by simpa [Path.counts] using h.counts
    have hstart : (baseSources name).tree.startOf name = [] := by
      unfold Files.Tree.startOf
      split <;> rfl
    have hstep : (baseSources name).tree.step [] name = .ok [name] := by
      simp [Files.Tree.step, Files.Tree.find?, hcounts, h.stays, Nat.not_lt.mpr hlength]
    have hlocate : (baseSources name).tree.locate name = .ok [name] := by
      have hpath : ¬ name.utf8ByteSize > Files.Tree.pathLimit :=
        Nat.not_lt.mpr (Nat.le_trans hlength (by decide))
      unfold Files.Tree.locate
      rw [if_neg hnull, if_neg (by simpa using hcounts.1), if_neg hpath, hstart, h.cut_eq]
      simp only [Files.Tree.follow, hstep]
    refine Files.Tree.readBytes_of_locate hlocate ?_
    simp [Files.Tree.find?, baseSources, Keyed.get?]
  accepted := refusal_pageOf h
  page := by
    refine ⟨⟨200, [], baseText.toUTF8⟩, ?_, rfl, rfl, rfl⟩
    simp only [baseSources, Http.request, Keyed.get?, if_true]
  noReturn := by decide

/-- The file and the page of a name come to the same: they are alike, or both end with one
unforeseen error. -/
def LoadedAlike [Http.Client] [Interpreter] (sources : Sources) (name : String) : Prop :=
  Alike name (pageOf name) (load sources name) (load sources (pageOf name)) ∨
    ∃ e, Unforeseen sources name e ∧ load sources name = .error e ∧
      load sources (pageOf name) = .error e

/-- A name with one rule is loaded alike, whatever the text is. -/
theorem loadedAlike_of_sameRule [Http.Client] [Interpreter] (h : PlainName name) (hrule : SameRule name)
    (hs : Serves sources name text) : LoadedAlike sources name := by
  have hfile := hs.load_file h
  have hpage := hs.load_page
  rw [← (formats_eq_iff h).mpr hrule] at hpage
  rcases interpret_alike_or text (formatOfFile (Path.ofText name)) name (pageOf name) with
    halike | ⟨e, hleft, hright, hunsettled⟩
  · left
    rwa [hfile, hpage]
  · rw [hleft] at hfile
    rw [hright] at hpage
    refine .inr ⟨e, ?_, hfile, hpage⟩
    rcases settled_or_unforeseen sources name with hsettled | ⟨other, hother, hunforeseen⟩
    · rw [hfile] at hsettled
      exact absurd hsettled (hunsettled sources)
    · rw [hfile] at hother
      cases hother
      exact hunforeseen

/-- What is loaded alike gives one document or none. -/
theorem LoadedAlike.eq_ok_iff [Http.Client] [Interpreter] (h : LoadedAlike sources name) :
    load sources name = .ok d ↔ load sources (pageOf name) = .ok d := by
  rcases h with halike | ⟨e, -, hleft, hright⟩
  · generalize load sources name = left at halike ⊢
    generalize load sources (pageOf name) = right at halike ⊢
    cases halike <;> simp
  · rw [hleft, hright]

/-- A name with two rules is not loaded alike: one of them gives a document and the other one
none. -/
theorem not_loadedAlike_baseSources (h : PlainName name)
    (hlength : name.utf8ByteSize ≤ Files.Tree.nameLimit) (hrule : ¬ SameRule name) :
    ¬ LoadedAlike (baseSources name) name := by
  intro halike
  have hs := serves_baseSources h hlength
  have hboth := halike.eq_ok_iff (d := baseDocument)
  rw [hs.load_file h, hs.load_page] at hboth
  have hformats := mt (formats_eq_iff h).mp hrule
  generalize formatOfFile (Path.ofText name) = left at hboth hformats
  generalize formatOfPage name = right at hboth hformats
  cases left <;> cases right
  · exact hformats rfl
  · rw [interpret_baseText_json] at hboth
    cases hboth.mpr (interpret_baseText_yaml _)
  · rw [interpret_baseText_json] at hboth
    cases hboth.mp (interpret_baseText_yaml _)
  · exact hformats rfl

/-- **Files and pages are loaded alike exactly under the names with one rule.** For such a name and
every text, whatever client and interpreter there are, both give one document or reports with one
list of errors, unless loading ends with an unforeseen error, which then is the same; for every
other name this fails for some text. The name is not longer than the names of files are. -/
theorem load_alike_iff {name : String} (h : PlainName name)
    (hlength : name.utf8ByteSize ≤ Files.Tree.nameLimit) :
    (∀ [Http.Client] [Interpreter] sources text,
      Serves sources name text → LoadedAlike sources name) ↔ SameRule name := by
  constructor
  · intro hall
    by_contra hrule
    exact not_loadedAlike_baseSources h hlength hrule (hall _ _ (serves_baseSources h hlength))
  · intro hrule client interpreter sources text hs
    exact loadedAlike_of_sameRule h hrule hs

/-- A name with several dots, as the names of versioned documents have. -/
theorem load_alike_versionedName :
    PlainName "compute.v1.yaml" ∧ SameRule "compute.v1.yaml" ∧
      Serves (baseSources "compute.v1.yaml") "compute.v1.yaml" baseText ∧
      LoadedAlike (baseSources "compute.v1.yaml") "compute.v1.yaml" := by
  have hplain : PlainName "compute.v1.yaml" :=
    ⟨by decide, by decide, Unicode.forall_of_all (by decide)⟩
  have hlength : "compute.v1.yaml".utf8ByteSize ≤ Files.Tree.nameLimit := by decide
  have hrule : SameRule "compute.v1.yaml" := by decide +kernel
  have hs := serves_baseSources hplain hlength
  exact ⟨hplain, hrule, hs, (load_alike_iff hplain hlength).mpr hrule _ _ hs⟩

/-- A document in YAML whose ending is in upper case is loaded from a file and refused as a
page. -/
theorem load_upperCaseName :
    PlainName "d.YAML" ∧ Serves (baseSources "d.YAML") "d.YAML" baseText ∧
      load (baseSources "d.YAML") "d.YAML" = .ok baseDocument ∧
      load (baseSources "d.YAML") (pageOf "d.YAML") =
        .error (.failure (.malformed (pageOf "d.YAML")
          ["Expecting value: line 1 column 1 (char 0)"])) ∧
      ¬ LoadedAlike (baseSources "d.YAML") "d.YAML" := by
  have hplain : PlainName "d.YAML" :=
    ⟨by decide, by decide, Unicode.forall_of_all (by decide)⟩
  have hlength : "d.YAML".utf8ByteSize ≤ Files.Tree.nameLimit := by decide
  have hs := serves_baseSources hplain hlength
  have hrule : ¬ SameRule "d.YAML" := by decide +kernel
  have hfile : formatOfFile (Path.ofText "d.YAML") = .yaml := by decide +kernel
  have hpage : formatOfPage "d.YAML" = .json := by decide +kernel
  refine ⟨hplain, hs, ?_, ?_, not_loadedAlike_baseSources hplain hlength hrule⟩
  · rw [hs.load_file hplain, hfile]
    exact interpret_baseText_yaml _
  · rw [hs.load_page, hpage]
    exact interpret_baseText_json _

end Discovery

end RestBindings
