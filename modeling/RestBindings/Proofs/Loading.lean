import RestBindings.Discovery.Loading
import RestBindings.Proofs.Documents
import RestBindings.Proofs.Places

/-!
# What comes of loading a document

Loading a document is meant to end with the document, with the report that its source cannot be
read or fetched, or with the report that what was read is no document. `Settled` says that it ends
so, and why.

The errors of reading and decoding are more than the ones that are reported, and `Unforeseen` lists
those: a URL that the client refuses itself, a body that it cannot decode, a path with the character
zero, a file that holds no encoded text, a text that goes too deep for the interpreter, an integer
in JSON that is too long to be converted, and a value in YAML that its notation allows and its type
does not. The list is exact for every client and every interpreter, `load_settled_iff`: loading is
settled exactly when nothing unforeseen happens, and an unforeseen error is what loading ends with.
-/

namespace RestBindings

/-! ## Reading a file -/

namespace Files.Tree

variable {t : Tree} {path : String} {e : Error}

/-- A path that holds the character zero leads nowhere. -/
theorem locate_of_null (t : Tree) (h : '\x00' ∈ path.toList) :
    t.locate path = .error .nullInPath := by
  unfold locate
  rw [if_pos (List.contains_iff_mem.mpr h)]

/-- A path that leads nowhere holds the character zero, or is refused for a reason. -/
theorem locate_eq_error (h : t.locate path = .error e) :
    (e = .nullInPath ∧ '\x00' ∈ path.toList) ∨ ∃ reason, e = .refused reason path := by
  by_cases hnull : '\x00' ∈ path.toList
  · rw [locate_of_null t hnull] at h
    cases h
    exact .inl ⟨rfl, hnull⟩
  · right
    unfold locate at h
    rw [if_neg (fun hc => hnull (List.contains_iff_mem.mp hc))] at h
    split at h
    · cases h
      exact ⟨.notFound, rfl⟩
    split at h
    · cases h
      exact ⟨.nameTooLong, rfl⟩
    split at h
    · cases h
    · next reason _ =>
        cases h
        exact ⟨reason, rfl⟩

/-- Nothing is read through a path that leads nowhere. -/
theorem readBytes_of_locate_error (h : t.locate path = .error e) :
    t.readBytes path = .error e := by
  rw [readBytes, lookUp, h]
  rfl

/-- Bytes cannot be read where the path holds the character zero, or the operation is refused. -/
theorem readBytes_eq_error (h : t.readBytes path = .error e) :
    (e = .nullInPath ∧ '\x00' ∈ path.toList) ∨ ∃ reason, e = .refused reason path := by
  cases hl : t.locate path with
  | error cause =>
      rw [readBytes_of_locate_error hl] at h
      cases h
      exact locate_eq_error hl
  | ok place =>
      right
      rw [readBytes, lookUp, hl] at h
      simp only [Except.map] at h
      cases hf : t.find? place with
      | none =>
          rw [hf] at h
          cases h
          exact ⟨.notFound, rfl⟩
      | some entry =>
          rw [hf] at h
          cases entry <;> cases h
          exact ⟨.isDirectory, rfl⟩

/-- A text cannot be read where its bytes cannot be read, or are no encoded text. -/
theorem readText_eq_error_iff :
    t.readText path = .error e ↔ t.readBytes path = .error e ∨
      ∃ content, t.readBytes path = .ok content ∧ String.fromUTF8? content = none ∧
        e = .undecodable := by
  unfold readText
  cases t.readBytes path with
  | error cause => simp
  | ok content =>
      unfold textOf
      cases htext : String.fromUTF8? content <;> simp [htext, eq_comm]

end Files.Tree

/-! ## Fetching a URL -/

namespace Http

variable {web : Web} {url : String} {response : Response} {cause : Error}

/-- Fetching does not look at a body: its errors are failures of fetching or refusals of a URL. -/
def Error.BeforeBody (cause : Error) : Prop :=
  cause.isFetching = true ∨ ∃ message, cause = .refusedUrl message

/-- A URL without a response refuses the connection. -/
theorem request_eq_error (h : request web url = .error cause) : cause.BeforeBody := by
  unfold request at h
  split at h <;> cases h
  exact .inl rfl

/-- A response that is no success is a failure of fetching. -/
theorem checkStatus_eq_error (h : checkStatus response url = .error cause) :
    cause.BeforeBody := by
  unfold checkStatus at h
  split at h <;> cases h
  exact .inl rfl

variable [Client]

/-- The client refuses a location, which is a failure of fetching, or the URL it leads to. -/
theorem nextUrl_eq_error {location : String} (h : nextUrl url location = .error cause) :
    cause.BeforeBody := by
  unfold nextUrl at h
  split at h
  · cases h
    exact .inl rfl
  · dsimp only at h
    split at h <;> cases h
    exact .inr ⟨_, rfl⟩

/-- Following locations ends before the first body that is looked at. -/
theorem follow_eq_error {left : Nat} (h : follow web left url = .error cause) :
    cause.BeforeBody := by
  induction left generalizing url with
  | zero =>
      cases h
      exact .inl rfl
  | succ left ih =>
      unfold follow at h
      cases hresponse : request web url with
      | error e =>
          rw [hresponse] at h
          cases h
          exact request_eq_error hresponse
      | ok response =>
          simp only [hresponse] at h
          split at h
          · cases h
          · split at h
            · next hnext =>
                cases h
                exact nextUrl_eq_error hnext
            · exact ih h

/-- A single request ends before its body is looked at. -/
theorem requestOnce_eq_error (h : requestOnce web url = .error cause) : cause.BeforeBody := by
  unfold requestOnce at h
  cases hresponse : request web url with
  | error e =>
      rw [hresponse] at h
      cases h
      exact request_eq_error hresponse
  | ok response =>
      simp only [hresponse] at h
      split at h
      · cases h
      · split at h <;> cases h
        next hnext => exact nextUrl_eq_error hnext

/-- Fetching fails, or the client refuses a URL. -/
theorem fetch_eq_error {follows : Bool} {source : String}
    (h : fetch web follows source = .error cause) : cause.BeforeBody := by
  unfold fetch at h
  split at h
  · cases h
    exact .inr ⟨_, rfl⟩
  · dsimp only at h
    split at h
    · exact checkStatus_eq_error h
    · next hrequest =>
        cases h
        cases follows with
        | true => exact follow_eq_error hrequest
        | false => exact requestOnce_eq_error hrequest

/-- A body without a text cannot be decoded. -/
theorem Response.text_eq_error (h : response.text = .error cause) :
    ∃ message, cause = .undecodableBody message := by
  unfold Response.text at h
  split at h <;> cases h
  exact ⟨_, rfl⟩

end Http

namespace Discovery

section

variable [Http.Client] [Interpreter]
variable {sources : Sources} {source text : String} {format : Format} {e : Error}

/-! ## What loading comes to -/

/-- The text of a source and its format: from the web, if the source is a URL, or from a file. -/
def acquire (sources : Sources) (source : String) : Except Error (String × Format) :=
  if Url.isFetchable source then readUrl sources source else readFile sources.tree source

/-- What is promised of loading a document: the document, or one of two reports with its reason. -/
inductive Settled (sources : Sources) (source : String) : Except Error Document → Prop
  /-- The document is read from the value of the text. -/
  | document {text : String} {format : Format} {v : Value} {d : Document}
      (htext : acquire sources source = .ok (text, format))
      (hvalue : decode source text format = .ok v) (hdocument : readDocument v = .valid d) :
      Settled sources source (.ok d)
  /-- The source is a URL that cannot be fetched. -/
  | unfetched {cause : Http.Error} (hurl : Url.isFetchable source = true)
      (hfetch : Http.fetch sources.web sources.followsRedirects source = .error cause)
      (hcause : cause.isFetching = true) :
      Settled sources source (.error (.failure (.unreadable source (some cause.message))))
  /-- The source is a file that the file tree refuses to read. -/
  | unread {reason : Files.Reason} {path : String} (hfile : Url.isFetchable source = false)
      (hread : sources.tree.readBytes (Files.Path.ofText source).text =
        .error (.refused reason path)) :
      Settled sources source
        (.error (.failure (.unreadable source (some (Files.Error.refused reason path).message))))
  /-- The text is not JSON. -/
  | brokenJson {text message : String} {line column offset : Nat}
      (htext : acquire sources source = .ok (text, .json))
      (hstack : exhaustion? text .json = none)
      (hread : Json.read text = .error (.malformed message line column offset)) :
      Settled sources source (.error (.failure (.malformed source
        [(Json.Error.malformed message line column offset).message])))
  /-- The text is not YAML. -/
  | brokenYaml {text : String} (htext : acquire sources source = .ok (text, .yaml))
      (hstack : exhaustion? text .yaml = none) (hread : Yaml.read text = .error .malformed) :
      Settled sources source (.error (.malformedYaml source))
  /-- The text has a value, and no document is read from it. -/
  | misshapen {text : String} {format : Format} {v : Value} (errors : List String)
      (htext : acquire sources source = .ok (text, format))
      (hvalue : decode source text format = .ok v)
      (hdocument : ∀ d, readDocument v ≠ .valid d) :
      Settled sources source (.error (.failure (.malformed source errors)))

/-- The errors that no report takes up. -/
inductive Unforeseen (sources : Sources) (source : String) : Error → Prop
  /-- The client refuses a URL itself: the source, or one that it is led to. -/
  | refusedUrl {message : String} (hurl : Url.isFetchable source = true)
      (hfetch : Http.fetch sources.web sources.followsRedirects source =
        .error (.refusedUrl message)) :
      Unforeseen sources source (.badValue message)
  /-- The client cannot decode a body by the character set that is named for it. -/
  | undecodableBody {response : Http.Response} {message : String}
      (hurl : Url.isFetchable source = true)
      (hfetch : Http.fetch sources.web sources.followsRedirects source = .ok response)
      (hbody : response.text = .error (.undecodableBody message)) :
      Unforeseen sources source (.badValue message)
  /-- The path of a file holds the character zero. -/
  | nullInPath (hfile : Url.isFetchable source = false) (hnull : '\x00' ∈ source.toList) :
      Unforeseen sources source (.file .nullInPath)
  /-- A file does not hold encoded text. -/
  | undecodable {content : ByteArray} (hfile : Url.isFetchable source = false)
      (hread : sources.tree.readBytes (Files.Path.ofText source).text = .ok content)
      (hcontent : String.fromUTF8? content = none) :
      Unforeseen sources source (.file .undecodable)
  /-- A text goes too deep for the interpreter. -/
  | tooDeep {text message : String} {format : Format}
      (htext : acquire sources source = .ok (text, format))
      (hstack : exhaustion? text format = some message) :
      Unforeseen sources source (.badValue message)
  /-- A text in JSON has an integer with more digits than are converted. -/
  | longInteger {text : String} {digits : Nat} (htext : acquire sources source = .ok (text, .json))
      (hstack : exhaustion? text .json = none)
      (hread : Json.read text = .error (.longInteger digits)) :
      Unforeseen sources source (.json (.longInteger digits))
  /-- A text in YAML is well written and has no value. -/
  | valueless {text : String} {cause : Yaml.Error}
      (htext : acquire sources source = .ok (text, .yaml))
      (hstack : exhaustion? text .yaml = none)
      (hread : Yaml.read text = .error cause) (hcause : cause ≠ .malformed) :
      Unforeseen sources source (.yaml cause)

/-- A document is loaded by acquiring its text, decoding it and accepting its value. -/
theorem load_eq (sources : Sources) (source : String) :
    load sources source =
      (acquire sources source).bind fun acquired =>
        (decode source acquired.1 acquired.2).bind (accept source) := by
  unfold load acquire
  split
  · cases readUrl sources source <;> rfl
  · cases readFile sources.tree source <;> rfl

/-- Loading ends with the error of acquiring the text. -/
theorem load_of_acquire_error (h : acquire sources source = .error e) :
    load sources source = .error e := by
  rw [load_eq, h]
  rfl

/-- Loading ends with the error of decoding the text. -/
theorem load_of_decode_error (htext : acquire sources source = .ok (text, format))
    (h : decode source text format = .error e) : load sources source = .error e := by
  rw [load_eq, htext]
  simp only [Except.bind, h]

/-- A text that has a value is loaded by accepting the value. -/
theorem load_of_value {v : Value} (htext : acquire sources source = .ok (text, format))
    (hvalue : decode source text format = .ok v) : load sources source = accept source v := by
  rw [load_eq, htext]
  simp only [Except.bind, hvalue]

/-- A URL that gives no text cannot be fetched, which is reported, or the client gives it up. -/
theorem settled_or_unforeseen_of_readUrl (hurl : Url.isFetchable source = true)
    (h : readUrl sources source = .error e) :
    Settled sources source (.error e) ∨ Unforeseen sources source e := by
  unfold readUrl at h
  cases hfetch : Http.fetch sources.web sources.followsRedirects source with
  | error cause =>
      rw [hfetch] at h
      cases h
      rcases Http.fetch_eq_error hfetch with hcause | ⟨message, rfl⟩
      · rw [errorOfUrl, if_pos hcause]
        exact .inl (.unfetched hurl hfetch hcause)
      · exact .inr (.refusedUrl hurl hfetch)
  | ok response =>
      simp only [hfetch] at h
      cases htext : response.text with
      | ok text =>
          rw [htext] at h
          cases h
      | error cause =>
          obtain ⟨message, rfl⟩ := Http.Response.text_eq_error htext
          rw [htext] at h
          cases h
          exact .inr (.undecodableBody hurl hfetch htext)

/-- A file gives no text when the tree refuses it, or for an unforeseen reason. -/
theorem settled_or_unforeseen_of_readFile (hfile : Url.isFetchable source = false)
    (h : readFile sources.tree source = .error e) :
    Settled sources source (.error e) ∨ Unforeseen sources source e := by
  unfold readFile at h
  cases hread : sources.tree.readText (Files.Path.ofText source).text with
  | ok text =>
      simp only [hread] at h
      cases h
  | error cause =>
      simp only [hread] at h
      rcases Files.Tree.readText_eq_error_iff.mp hread with hbytes | ⟨content, hbytes, hnone, rfl⟩
      · rcases Files.Tree.readBytes_eq_error hbytes with ⟨rfl, hnull⟩ | ⟨reason, rfl⟩
        · cases h
          exact .inr (.nullInPath hfile ((Files.Path.mem_text_ofText_iff (by decide)).mp hnull))
        · cases h
          exact .inl (.unread hfile hbytes)
      · cases h
        exact .inr (.undecodable hfile hbytes hnone)

/-- A source gives no text for a reported or an unforeseen reason. -/
theorem settled_or_unforeseen_of_acquire (h : acquire sources source = .error e) :
    Settled sources source (.error e) ∨ Unforeseen sources source e := by
  unfold acquire at h
  cases hurl : Url.isFetchable source with
  | true =>
      rw [if_pos hurl] at h
      exact settled_or_unforeseen_of_readUrl hurl h
  | false =>
      rw [if_neg (Bool.eq_false_iff.mp hurl)] at h
      exact settled_or_unforeseen_of_readFile hurl h

/-- A text that does not go too deep has no value because of its notation, or for an unforeseen
reason. -/
theorem settled_or_unforeseen_of_decodeNotation
    (htext : acquire sources source = .ok (text, format))
    (hstack : exhaustion? text format = none) (h : decodeNotation source text format = .error e) :
    Settled sources source (.error e) ∨ Unforeseen sources source e := by
  cases format with
  | json =>
      unfold decodeNotation at h
      cases hread : Json.read text with
      | ok v =>
          simp only [hread] at h
          cases h
      | error cause =>
          simp only [hread] at h
          cases cause with
          | malformed message line column offset =>
              cases h
              exact .inl (.brokenJson htext hstack hread)
          | longInteger digits =>
              cases h
              exact .inr (.longInteger htext hstack hread)
  | yaml =>
      unfold decodeNotation at h
      cases hread : Yaml.read text with
      | ok v =>
          simp only [hread] at h
          cases h
      | error cause =>
          simp only [hread] at h
          by_cases hcause : cause = .malformed
          · subst hcause
            cases h
            exact .inl (.brokenYaml htext hstack hread)
          · have he : e = .yaml cause := by
              cases cause <;> first | exact absurd rfl hcause | (cases h; rfl)
            subst he
            exact .inr (.valueless htext hstack hread hcause)

/-- A text has no value for a reported or an unforeseen reason. -/
theorem settled_or_unforeseen_of_decode (htext : acquire sources source = .ok (text, format))
    (h : decode source text format = .error e) :
    Settled sources source (.error e) ∨ Unforeseen sources source e := by
  unfold decode at h
  cases hstack : exhaustion? text format with
  | none =>
      rw [hstack] at h
      exact settled_or_unforeseen_of_decodeNotation htext hstack h
  | some message =>
      rw [hstack] at h
      cases h
      exact .inr (.tooDeep htext hstack)

/-- A value is accepted, or reported to be no document. -/
theorem settled_accept {v : Value} (htext : acquire sources source = .ok (text, format))
    (hvalue : decode source text format = .ok v) :
    Settled sources source (accept source v) := by
  cases haccept : accept source v with
  | ok d => exact .document htext hvalue (accept_eq_ok_iff.mp haccept)
  | error e =>
      have hdocument : ∀ d, readDocument v ≠ .valid d := by
        intro d hd
        rw [accept_eq_ok_iff.mpr hd] at haccept
        cases haccept
      obtain ⟨errors, rfl⟩ : ∃ errors, e = .failure (.malformed source errors) := by
        unfold accept at haccept
        split at haccept
        · split at haccept <;> cases haccept
          exact ⟨_, rfl⟩
        · cases haccept
          exact ⟨_, rfl⟩
      exact .misshapen errors htext hvalue hdocument

/-! ## All of loading -/

/-- Loading is settled or ends with an unforeseen error. -/
theorem settled_or_unforeseen (sources : Sources) (source : String) :
    Settled sources source (load sources source) ∨
      ∃ e, load sources source = .error e ∧ Unforeseen sources source e := by
  have hended {e : Error} (hload : load sources source = .error e)
      (h : Settled sources source (.error e) ∨ Unforeseen sources source e) :
      Settled sources source (load sources source) ∨
        ∃ e, load sources source = .error e ∧ Unforeseen sources source e :=
    h.imp (fun hs => hload ▸ hs) fun hu => ⟨e, hload, hu⟩
  cases htext : acquire sources source with
  | error e => exact hended (load_of_acquire_error htext) (settled_or_unforeseen_of_acquire htext)
  | ok acquired =>
      obtain ⟨text, format⟩ := acquired
      cases hvalue : decode source text format with
      | error e =>
          exact hended (load_of_decode_error htext hvalue)
            (settled_or_unforeseen_of_decode htext hvalue)
      | ok v =>
          left
          rw [load_of_value htext hvalue]
          exact settled_accept htext hvalue

/-- A file that cannot be read for another reason than a refusal gives the error of reading it. -/
theorem load_of_readText_error (hfile : Url.isFetchable source = false) {cause : Files.Error}
    (h : sources.tree.readText (Files.Path.ofText source).text = .error cause)
    (hcause : ∀ reason path, cause ≠ .refused reason path) :
    load sources source = .error (.file cause) := by
  refine load_of_acquire_error ?_
  unfold acquire readFile
  rw [if_neg (Bool.eq_false_iff.mp hfile)]
  simp only [h]

/-- A URL that gives no text ends loading. -/
theorem load_of_readUrl_error (hurl : Url.isFetchable source = true)
    (h : readUrl sources source = .error e) : load sources source = .error e := by
  refine load_of_acquire_error ?_
  unfold acquire
  rw [if_pos hurl, h]

/-- An unforeseen error is what loading ends with. -/
theorem Unforeseen.load_eq (h : Unforeseen sources source e) :
    load sources source = .error e := by
  cases h with
  | refusedUrl hurl hfetch =>
      refine load_of_readUrl_error hurl ?_
      simp only [readUrl, hfetch]
      rfl
  | undecodableBody hurl hfetch hbody =>
      refine load_of_readUrl_error hurl ?_
      simp only [readUrl, hfetch, hbody]
      rfl
  | nullInPath hfile hnull =>
      refine load_of_readText_error hfile (Files.Tree.readText_eq_error_iff.mpr (.inl ?_)) nofun
      have hpath := (Files.Path.mem_text_ofText_iff (by decide)).mpr hnull
      exact Files.Tree.readBytes_of_locate_error (Files.Tree.locate_of_null _ hpath)
  | undecodable hfile hread hcontent =>
      exact load_of_readText_error hfile
        (Files.Tree.readText_eq_error_iff.mpr (.inr ⟨_, hread, hcontent, rfl⟩)) nofun
  | tooDeep htext hstack =>
      refine load_of_decode_error htext ?_
      simp only [decode, hstack]
  | longInteger htext hstack hread =>
      refine load_of_decode_error htext ?_
      simp only [decode, hstack, decodeNotation, hread]
  | @valueless text cause htext hstack hread hcause =>
      refine load_of_decode_error htext ?_
      simp only [decode, hstack]
      unfold decodeNotation
      cases cause <;> simp_all

end

example : load ⟨.ofWorkingDirectory ["work"], [], true⟩ "http://example.com:abc/" =
    .error (.badValue "Invalid port: 'abc'") := by
  decide +kernel

end Discovery

end RestBindings
