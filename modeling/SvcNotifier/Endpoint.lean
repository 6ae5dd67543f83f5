import SvcNotifier.Codec
import SvcNotifier.Library.Blocks
import SvcNotifier.Library.Values

/-!
# The GraphQL endpoint

A request that accepts an event stream is answered by one event for each response of the
subscription, with keep-alives between them. A reader of the stream gets the body in pieces that
are cut anywhere and takes it apart block by block. What it reads are the responses, each as soon
as all of it is there, whatever texts they carry.
-/

namespace SvcNotifier

open Library

/-! ## The request -/

/-- `GraphQLRequestBody`. -/
structure GraphQLRequestBody where
  /-- The text of the operations. -/
  query : List Char
  /-- Which of them is meant, where the client says so. -/
  operationName : Option (List Char)
  /-- Any value, and null where there is none. -/
  variables_ : Json

/-- What `into_request` sets of a request. -/
structure GraphQLRequest where
  /-- The text of the operations. -/
  query : List Char
  /-- Which of them is executed, where the client says so. -/
  operationName : Option (List Char)
  /-- The variables by their names, in ascending order. -/
  variables_ : List (List Char × Json)

/-- A field marked `#[serde(default)]`; a key that is there twice is an error. -/
def defaultMember (members : List (List Char × Json)) (key : List Char) : Option (Option Json) :=
  match members.filter fun member => member.1 == key with
  | [] => some none
  | [member] => some (some member.2)
  | _ => none

/-- A `String`. -/
def decodeText : Json → Option (List Char)
  | .string text => some text
  | _ => none

/-- An `Option<String>` field marked `#[serde(default)]`. -/
def decodeName : Option Json → Option (Option (List Char))
  | none => some none
  | some .null => some none
  | some json => (decodeText json).map some

/-- `Variables::from_json`: what is no object has no variables. -/
def variablesFromJson : Json → List (List Char × Json)
  | .object members => members
  | _ => []

namespace GraphQLRequestBody

/-- The keys of the fields; a member under another key is passed over. -/
def isField (key : List Char) : Bool :=
  ["query".toList, "operationName".toList, "variables".toList].contains key

/-- The derived decode from the fields: `query` is required, and `variables` may be any value that
`serde_json` keeps, where `number` is how it keeps a numeral. -/
def decodeFields (number : List Char → Option (List Char))
    (query operationName variables_ : Option Json) : Option GraphQLRequestBody := do
  let query ← query.bind decodeText
  let operationName ← decodeName operationName
  let variables_ ← (variables_.getD .null).keep number
  some { query, operationName, variables_ }

/-- An object is decoded by its keys, and an array by position, with no item left over. -/
def ofJson (number : List Char → Option (List Char)) : Json → Option GraphQLRequestBody
  | .object members => do
    let query ← defaultMember members "query".toList
    let operationName ← defaultMember members "operationName".toList
    let variables_ ← defaultMember members "variables".toList
    decodeFields number query operationName variables_
  | .array items =>
    if items.length ≤ 3 then decodeFields number items[0]? items[1]? items[2]? else none
  | _ => none

/-- `serde_json::from_slice`, of a body that is UTF-8. -/
def fromSlice (number : List Char → Option (List Char)) (body : List Char) :
    Option GraphQLRequestBody :=
  (Json.parseAsked isField NotificationSignal.nestingLimit body).bind (ofJson number)

/-- `into_request`. -/
def intoRequest (body : GraphQLRequestBody) : GraphQLRequest where
  query := body.query
  operationName := body.operationName
  variables_ := match body.variables_ with
    | .null => []
    | variables_ => variablesFromJson variables_

end GraphQLRequestBody

/-- `HeaderValue::to_str`: only visible ASCII, blanks and tabs. -/
def headerText (value : List UInt8) : Option (List Char) :=
  if value.all fun byte => (32 ≤ byte && byte < 127) || byte == 9 then
    some (value.map fun byte => Char.ofNat byte.toNat)
  else none

/-- The media type of event streams. -/
def eventStream : List Char := "text/event-stream".toList

/-- `wants_event_stream`, by the first `Accept` header. -/
def wantsEventStream (headers : List (String × List UInt8)) : Bool :=
  match (headers.lookup "accept").bind headerText with
  | some value => decide (eventStream <:+: value)
  | none => false

/-- How `graphql_handler` answers. -/
inductive Response where
  /-- 413, for a body that is longer than axum's `Bytes` takes. -/
  | payloadTooLarge
  /-- 400, for a body that is no request. -/
  | badRequest
  /-- The response to a request, as JSON. -/
  | json (request : GraphQLRequest)
  /-- The responses to a request, as events. -/
  | sse (request : GraphQLRequest)

/-- The bytes that axum's `Bytes` takes of a body, where no layer says otherwise. -/
def bodyLimit : Nat := 2097152

/-- `graphql_handler`, up to the execution of the request. -/
def graphqlHandler (number : List Char → Option (List Char)) (headers : List (String × List UInt8))
    (body : List Char) : Response :=
  if bodyLimit < String.utf8Len body then .payloadTooLarge
  else match GraphQLRequestBody.fromSlice number body with
    | none => .badRequest
    | some parsed =>
      if wantsEventStream headers then .sse parsed.intoRequest else .json parsed.intoRequest

/-! ## The events -/

/-- What `graphql_handler` uses of axum's `sse`. -/
structure Sse where
  /-- What is sent for `Event::default().event(name).data(data)`. -/
  event : List Char → List Char → List Char
  /-- What is sent for a keep-alive. -/
  keepAlive : List Char

/-- The text goes on one line. -/
def OneLine (text : List Char) : Prop := ∀ c ∈ text, c ≠ '\n' ∧ c ≠ '\r'

/-- An event is its fields, one on a line, and a keep-alive is a comment, with a blank line after
either. -/
structure Sse.Documented (sse : Sse) : Prop where
  /-- Two lines and a blank one. -/
  event : ∀ name data, OneLine name → OneLine data → sse.event name data =
    "event: ".toList ++ name ++ '\n' :: ("data: ".toList ++ data) ++ ['\n', '\n']
  /-- One line and a blank one. -/
  keepAlive : ∃ comment, OneLine comment ∧ sse.keepAlive = ':' :: comment ++ ['\n', '\n']

/-- What goes out on an event stream. -/
inductive Sent where
  /-- A response, in an event of its own. -/
  | next (response : Json)
  /-- A sign of life. -/
  | keepAlive

/-- The text of it. -/
def Sent.text (sse : Sse) : Sent → List Char
  | .next response => sse.event "next".toList response.print
  | .keepAlive => sse.keepAlive

/-- The value of the response it carries, where `number` is how `serde_json` keeps a numeral. -/
def Sent.value? (number : List Char → Option (List Char)) : Sent → Option Json
  | .next response => response.keep number
  | .keepAlive => none

/-! ## The reader of the tests -/

/-- `str::lines`. -/
def lines : List Char → List (List Char)
  | [] => []
  | c :: rest =>
    if c = '\n' then [] :: lines rest
    else if c = '\r' ∧ rest.head? = some '\n' then lines rest
    else match lines rest with
      | [] => [[c]]
      | line :: later => (c :: line) :: later

/-- `str::strip_prefix`. -/
def stripPrefix (start text : List Char) : Option (List Char) :=
  if start.isPrefixOf text then some (text.drop start.length) else none

/-- `str::trim`. -/
def trim (text : List Char) : List Char :=
  ((trimStart text).reverse.dropWhile isWhitespace).reverse

/-- What a line says of the event's type and data. -/
def field (fields : Option (List Char) × Option (List Char)) (line : List Char) :
    Option (List Char) × Option (List Char) :=
  match stripPrefix "event:".toList line with
  | some value => (some (trim value), fields.2)
  | none => match stripPrefix "data:".toList line with
    | some value => (fields.1, some (trim value))
    | none => fields

namespace UnreadSseSession

section

variable (number : List Char → Option (List Char))

/-- `payload`: what a block carries. -/
def payload (block : List Char) : Option Json :=
  let fields := (lines block).foldl field (none, none)
  if fields.1 = some "next".toList then
    (fields.2.bind (Json.parse NotificationSignal.nestingLimit)).bind (Json.keep number)
  else none

/-- `take_block`, on the buffer. -/
def takeBlock (buffer : List Char) : Option (List Char × List Char) := Blocks.take '\n' buffer

/-- What becomes of waiting for the next piece of the body. -/
inductive Arrival where
  /-- A piece of the body, which is cut between characters. -/
  | chunk (text : List Char)
  /-- The service has closed the stream. -/
  | closed
  /-- The window has elapsed. -/
  | elapsed

/-- `FrameRead`. -/
inductive FrameRead where
  /-- The value of a response. -/
  | payload (response : Json)
  /-- The service has closed the stream. -/
  | ended
  /-- The window has elapsed. -/
  | quiet

/-- The turns of `read` that wait for nothing: blocks are taken up to the first that carries a
payload. There are fewer blocks than characters. -/
def takePayload : Nat → List Char → Option Json × List Char
  | 0, buffer => (none, buffer)
  | turns + 1, buffer => match takeBlock buffer with
    | none => (none, buffer)
    | some (block, rest) => match payload number block with
      | some response => (some response, rest)
      | none => takePayload turns rest

/-- `read`, with the buffer and what is yet to arrive before and after. -/
def read (buffer : List Char) : List Arrival → FrameRead × List Char × List Arrival
  | [] => match takePayload number buffer.length buffer with
    | (some response, rest) => (.payload response, rest, [])
    | (none, rest) => (.quiet, rest, [])
  | arrival :: later => match takePayload number buffer.length buffer with
    | (some response, rest) => (.payload response, rest, arrival :: later)
    | (none, rest) => match arrival with
      | .elapsed => (.quiet, rest, later)
      | .closed => (.ended, rest, later)
      | .chunk text => read (rest ++ text) later

/-- One `read` after the other. -/
def reads (buffer : List Char) (arrivals : List Arrival) :
    Nat → List FrameRead × List Char × List Arrival
  | 0 => ([], buffer, arrivals)
  | count + 1 =>
    let first := read number buffer arrivals
    let others := reads first.2.1 first.2.2 count
    (first.1 :: others.1, others.2)

end

/-- What a piece adds to the buffer. -/
def Arrival.text : Arrival → List Char
  | .chunk text => text
  | _ => []

/-- The value that was read, if one was. -/
def FrameRead.response? : FrameRead → Option Json
  | .payload response => some response
  | _ => none

end UnreadSseSession

/-! ## What a block carries -/

/-- The block of what goes out, with the text of the comments. -/
def Sent.block (comment : List Char) : Sent → List Char
  | .next response => "event: next".toList ++ '\n' :: ("data: ".toList ++ response.print)
  | .keepAlive => ':' :: comment

/-- A text whose characters have been gone through. -/
theorem oneLine_of_all {text : List Char}
    (all : text.all (fun c => c != '\n' && c != '\r') = true) :
    OneLine text := by
  intro c member
  simpa using List.all_eq_true.mp all c member

/-- The second line of a response's block. -/
theorem oneLine_data {response : Json} (oneLine : OneLine response.print) :
    OneLine ('d' :: ("ata: ".toList ++ response.print)) := by
  have start : OneLine "data: ".toList := oneLine_of_all rfl
  exact List.forall_mem_append.mpr ⟨start, oneLine⟩

/-- A line goes on until the next. -/
theorem lines_append {line : List Char} (oneLine : OneLine line) (rest : List Char) :
    lines (line ++ '\n' :: rest) = line :: lines rest := by
  induction line with
  | nil => simp [lines]
  | cons c line ih =>
    obtain ⟨inside, others⟩ := List.forall_mem_cons.mp oneLine
    have going : ¬(c = '\r' ∧ (line ++ '\n' :: rest).head? = some '\n') := fun both =>
      inside.2 both.1
    rw [List.cons_append, lines, if_neg inside.1, if_neg going, ih others]

/-- The last line. -/
theorem lines_last {c : Char} {line : List Char} (oneLine : OneLine (c :: line)) :
    lines (c :: line) = [c :: line] := by
  induction line generalizing c with
  | nil =>
    obtain ⟨inside, -⟩ := List.forall_mem_cons.mp oneLine
    simp [lines, inside.1]
  | cons second line ih =>
    obtain ⟨inside, others⟩ := List.forall_mem_cons.mp oneLine
    have going : ¬(c = '\r' ∧ (second :: line).head? = some '\n') := fun both => inside.2 both.1
    rw [lines, if_neg inside.1, if_neg going, ih others]

/-- A visible character is no blank. -/
theorem isWhitespace_visible {c : Char} (visible : Json.isVisible c = true) :
    isWhitespace c = false := by
  simp only [Json.isVisible, Bool.and_eq_true, decide_eq_true_eq] at visible
  simp only [isWhitespace, Bool.or_eq_false_iff, Bool.and_eq_false_iff, decide_eq_false_iff_not,
    beq_eq_false_iff_ne]
  omega

/-- The blank before a value is trimmed, and nothing else. -/
theorem trim_spaced {text : List Char} (trimmed : Json.Trimmed text) :
    trim (' ' :: text) = text := by
  obtain ⟨first, last, starts, ends, visible, visible'⟩ := trimmed
  obtain ⟨rest, rfl⟩ := List.head?_eq_some_iff.mp starts
  have start : trimStart (' ' :: first :: rest) = first :: rest :=
    trimStart_cons (isWhitespace_visible visible) rest
  obtain ⟨init, whole⟩ := List.getLast?_eq_some_iff.mp ends
  rw [trim, start, whole, List.reverse_append, List.reverse_singleton, List.singleton_append,
    List.dropWhile_cons_of_neg (by rw [isWhitespace_visible visible']; exact Bool.false_ne_true),
    List.reverse_cons, List.reverse_reverse]

/-- A value is written on one line. -/
theorem oneLine_print {depth : Nat} {json : Json} (proper : Json.Proper depth json) :
    OneLine json.print := by
  intro c member
  have printable := Json.printable_print proper c member
  constructor
  · rintro rfl
    exact absurd printable (by decide)
  · rintro rfl
    exact absurd printable (by decide)

open UnreadSseSession in
/-- The block of a response carries its value. -/
theorem payload_next {response : Json}
    (proper : Json.Proper NotificationSignal.nestingLimit response)
    (number : List Char → Option (List Char)) (comment : List Char) :
    payload number (Sent.block comment (.next response)) = response.keep number := by
  have type_ : OneLine "event: next".toList := oneLine_of_all rfl
  have data := oneLine_data (oneLine_print proper)
  have split : lines (Sent.block comment (.next response)) =
      ["event: next".toList, 'd' :: ("ata: ".toList ++ response.print)] :=
    (lines_append type_ _).trans (congrArg _ (lines_last data))
  have isType : field (none, none) "event: next".toList = (some "next".toList, none) := by decide
  have isData : field (some "next".toList, none) ('d' :: ("ata: ".toList ++ response.print)) =
      (some "next".toList, some (trim (' ' :: response.print))) := rfl
  simp only [payload, split, List.foldl_cons, List.foldl_nil, isType, isData, if_true,
    trim_spaced (Json.trimmed_print proper), Option.bind_some, Json.parse_print proper]

/-- A line that starts with another character. -/
theorem stripPrefix_head {start text : List Char} (some_ : start ≠ [])
    (other : start.head? ≠ text.head?) : stripPrefix start text = none := by
  cases start with
  | nil => contradiction
  | cons first start =>
    cases text with
    | nil => simp [stripPrefix]
    | cons c text =>
      have apart : first ≠ c := fun same => other (congrArg some same)
      simp [stripPrefix, List.isPrefixOf, apart]

open UnreadSseSession in
/-- The block of a comment carries nothing. -/
theorem payload_keepAlive {comment : List Char} (oneLine : OneLine comment)
    (number : List Char → Option (List Char)) :
    payload number (Sent.block comment .keepAlive) = none := by
  have whole : OneLine (':' :: comment) := List.forall_mem_cons.mpr ⟨by decide, oneLine⟩
  have split : lines (Sent.block comment .keepAlive) = [':' :: comment] := lines_last whole
  have type_ : stripPrefix "event:".toList (':' :: comment) = none :=
    stripPrefix_head (by decide) (by rw [List.head?_cons]; decide)
  have data : stripPrefix "data:".toList (':' :: comment) = none :=
    stripPrefix_head (by decide) (by rw [List.head?_cons]; decide)
  have nothing : field (none, none) (':' :: comment) = (none, none) := by
    unfold field
    rw [type_, data]
  rw [payload, split, List.foldl_cons, List.foldl_nil, nothing]
  exact if_neg (by simp)

/-! ## What is read -/

/-- The text of what goes out is its blocks, with a blank line after each. -/
theorem text_sent {sse : Sse} (documented : sse.Documented) : ∃ comment, OneLine comment ∧
    ∀ sent : List Sent,
      (∀ response, .next response ∈ sent →
        Json.Proper NotificationSignal.nestingLimit response) →
      sent.flatMap (Sent.text sse) = Blocks.write '\n' (sent.map (Sent.block comment)) := by
  obtain ⟨comment, oneLine, keepAlive⟩ := documented.keepAlive
  refine ⟨comment, oneLine, fun sent proper => ?_⟩
  induction sent with
  | nil => rfl
  | cons first later ih =>
    have others := ih fun response member => proper response (List.mem_cons_of_mem _ member)
    have one : first.text sse = first.block comment ++ ['\n', '\n'] := by
      cases first with
      | next response =>
        have type_ : OneLine "next".toList := oneLine_of_all rfl
        exact documented.event _ _ type_ (oneLine_print (proper response List.mem_cons_self))
      | keepAlive => exact keepAlive
    rw [List.flatMap_cons, others, one, List.map_cons, Blocks.write_cons, List.append_assoc]
    rfl

section

variable {comment : List Char} {sent : List Sent}

/-- No block goes on in another. -/
theorem solid_block (oneLine : OneLine comment) {item : Sent}
    (proper : ∀ response, item = .next response →
      Json.Proper NotificationSignal.nestingLimit response) :
    Blocks.Solid '\n' (item.block comment) := by
  have free : ∀ text, OneLine text → '\n' ∉ text := fun text oneLine member =>
    (oneLine _ member).1 rfl
  cases item with
  | next response =>
    have data := oneLine_data (oneLine_print (proper response rfl))
    have type_ : OneLine "event: next".toList := oneLine_of_all rfl
    exact (Blocks.solid_of_free (free _ data)).append (free _ type_) (by decide)
  | keepAlive =>
    exact Blocks.solid_of_free (free _ (List.forall_mem_cons.mpr ⟨by decide, oneLine⟩))

/-- Every block carries the value of the response that was sent in it, if one was. -/
theorem payload_block (oneLine : OneLine comment) {item : Sent}
    (proper : ∀ response, item = .next response →
      Json.Proper NotificationSignal.nestingLimit response)
    (number : List Char → Option (List Char)) :
    UnreadSseSession.payload number (item.block comment) = item.value? number := by
  cases item with
  | next response => exact payload_next (proper response rfl) number comment
  | keepAlive => exact payload_keepAlive oneLine number

end

namespace UnreadSseSession

/-- What comes of the first item, and what comes of the others. -/
theorem filterMap_cons_toList {α β : Type} (f : α → Option β) (item : α) (items : List α) :
    (item :: items).filterMap f = (f item).toList ++ items.filterMap f := by
  cases found : f item with
  | none => rw [List.filterMap_cons_none found, Option.toList_none, List.nil_append]
  | some value => rw [List.filterMap_cons_some found]; rfl

/-- What the blocks of `sent` are, for a reader. -/
structure Framed (number : List Char → Option (List Char)) (comment : List Char)
    (sent : List Sent) : Prop where
  /-- No block goes on in another. -/
  solid : ∀ item ∈ sent, Blocks.Solid '\n' (item.block comment)
  /-- A block carries the value of its response. -/
  carried : ∀ item ∈ sent, payload number (item.block comment) = item.value? number

variable {number : List Char → Option (List Char)} {comment : List Char} {sent : List Sent}
  {buffer rest coming : List Char}

/-- A reader has taken the first `count` items off a text and found `responses` in them. -/
structure Taken (number : List Char → Option (List Char)) (comment : List Char) (sent : List Sent)
    (text rest : List Char) (responses : List Json) (count : Nat) : Prop where
  /-- There are so many. -/
  inside : count ≤ sent.length
  /-- The text starts with their blocks. -/
  whole : text = Blocks.write '\n' ((sent.take count).map (Sent.block comment)) ++ rest
  /-- What they carry has been found. -/
  found : (sent.take count).filterMap (Sent.value? number) = responses

/-- Nothing has been taken off. -/
theorem Taken.start (text : List Char) : Taken number comment sent text text [] 0 :=
  ⟨Nat.zero_le _, rfl, rfl⟩

/-- One item more has been taken off, at the front. -/
theorem Taken.cons {item : Sent} {text : List Char} {responses : List Json} {count : Nat}
    (taken : Taken number comment sent text rest responses count) :
    Taken number comment (item :: sent) (item.block comment ++ '\n' :: '\n' :: text) rest
      ((item.value? number).toList ++ responses) (count + 1) where
  inside := Nat.succ_le_succ taken.inside
  whole := by
    rw [List.take_succ_cons, List.map_cons, Blocks.write_cons, List.append_assoc, List.cons_append,
      List.cons_append, ← taken.whole]
  found := by
    rw [List.take_succ_cons, filterMap_cons_toList, taken.found]

/-- What is taken off in two goes. -/
theorem Taken.trans {text middle : List Char} {first second : List Json} {count others : Nat}
    (taken : Taken number comment sent text middle first count)
    (goesOn : Taken number comment (sent.drop count) middle rest second others) :
    Taken number comment sent text rest (first ++ second) (count + others) where
  inside := by
    have more := goesOn.inside
    rw [List.length_drop] at more
    have := taken.inside
    omega
  whole := by
    rw [taken.whole, goesOn.whole, List.take_add, List.map_append, Blocks.write_append,
      List.append_assoc]
  found := by
    rw [List.take_add, List.filterMap_append, taken.found, goesOn.found]

/-- What is left after that is still to be read. -/
theorem Taken.ahead {text : List Char} {responses : List Json} {count : Nat}
    (taken : Taken number comment sent text rest responses count)
    (arrived : text ++ coming <+: Blocks.write '\n' (sent.map (Sent.block comment))) :
    rest ++ coming <+: Blocks.write '\n' ((sent.drop count).map (Sent.block comment)) := by
  have parts : Blocks.write '\n' (sent.map (Sent.block comment)) =
      Blocks.write '\n' ((sent.take count).map (Sent.block comment)) ++
        Blocks.write '\n' ((sent.drop count).map (Sent.block comment)) := by
    rw [← Blocks.write_append, ← List.map_append, List.take_append_drop]
  rw [taken.whole, parts, List.append_assoc] at arrived
  exact (List.prefix_append_right_inj _).mp arrived

/-- `takePayload` takes items up to the first response. -/
theorem takePayload_spec (framed : Framed number comment sent)
    (arrived : buffer ++ coming <+: Blocks.write '\n' (sent.map (Sent.block comment))) {turns : Nat}
    (enough : buffer.length ≤ turns) {found : Option Json}
    (ran : takePayload number turns buffer = (found, rest)) :
    ∃ count, Taken number comment sent buffer rest found.toList count ∧
      (found = none → takeBlock rest = none) := by
  induction turns generalizing buffer sent with
  | zero =>
    obtain rfl : buffer = [] := List.length_eq_zero_iff.mp (by omega)
    obtain ⟨rfl, rfl⟩ := Prod.mk.inj ran
    exact ⟨0, .start [], fun _ => rfl⟩
  | succ turns ih =>
    unfold takePayload at ran
    cases taken : takeBlock buffer with
    | none =>
      rw [taken] at ran
      obtain ⟨rfl, rfl⟩ := Prod.mk.inj ran
      exact ⟨0, .start buffer, fun _ => taken⟩
    | some parts =>
      obtain ⟨block, after⟩ := parts
      have solid : ∀ block ∈ sent.map (Sent.block comment), Blocks.Solid '\n' block :=
        List.forall_mem_map.mpr framed.solid
      obtain ⟨later, blocks, goesOn⟩ :=
        Blocks.taken_of_prefix solid arrived (Blocks.take_append taken coming)
      have shape : buffer = block ++ '\n' :: '\n' :: after := Blocks.take_eq taken
      cases sent with
      | nil => contradiction
      | cons item others =>
        obtain ⟨isBlock, rfl⟩ := List.cons.inj blocks
        have carried := framed.carried item List.mem_cons_self
        rw [taken] at ran
        simp only [← isBlock, carried] at ran
        rw [shape, ← isBlock]
        cases response : item.value? number with
        | some value =>
          rw [response] at ran
          obtain ⟨rfl, rfl⟩ := Prod.mk.inj ran
          have one : Taken number comment (item :: others) _ _
              ((item.value? number).toList ++ []) 1 :=
            .cons (.start after)
          rw [response] at one
          exact ⟨1, one, fun absent => by contradiction⟩
        | none =>
          rw [response] at ran
          have shorter : after.length ≤ turns := by
            rw [shape] at enough
            simp only [List.length_append, List.length_cons] at enough
            omega
          have framedLater : Framed number comment others :=
            ⟨fun item member => framed.solid item (List.mem_cons_of_mem _ member),
              fun item member => framed.carried item (List.mem_cons_of_mem _ member)⟩
          obtain ⟨count, more, waits⟩ := ih framedLater goesOn shorter ran
          have one : Taken number comment (item :: others) _ _
              ((item.value? number).toList ++ found.toList)
              (count + 1) := more.cons
          rw [response] at one
          exact ⟨count + 1, one, waits⟩

/-- What arrives after it is left as it is. -/
theorem Taken.more {text : List Char} {responses : List Json} {count : Nat}
    (taken : Taken number comment sent text rest responses count) (more : List Char) :
    Taken number comment sent (text ++ more) (rest ++ more) responses count where
  inside := taken.inside
  whole := by rw [taken.whole, List.append_assoc]
  found := taken.found

/-- The items that are left are framed. -/
theorem Framed.drop (framed : Framed number comment sent) (count : Nat) :
    Framed number comment (sent.drop count) where
  solid item member := framed.solid item (List.mem_of_mem_drop member)
  carried item member := framed.carried item (List.mem_of_mem_drop member)

/-- What a `read` does: it finds a payload, it gives up, or it goes on with one more piece. -/
theorem of_read {arrivals later : List Arrival} {result : FrameRead}
    (ran : read number buffer arrivals = (result, rest, later)) :
    ∃ found after, takePayload number buffer.length buffer = (found, after) ∧
      ((found = result.response? ∧ rest = after ∧
          ∃ before, arrivals = before ++ later ∧ before.flatMap Arrival.text = []) ∨
        found = none ∧ ∃ text others, arrivals = .chunk text :: others ∧
          read number (after ++ text) others = (result, rest, later)) := by
  obtain ⟨⟨found, after⟩, left⟩ : ∃ pair, takePayload number buffer.length buffer = pair := ⟨_, rfl⟩
  refine ⟨found, after, left, ?_⟩
  cases arrivals with
  | nil =>
    rw [read, left] at ran
    cases found with
    | some response =>
      cases ran
      exact Or.inl ⟨rfl, rfl, [], rfl, rfl⟩
    | none =>
      cases ran
      exact Or.inl ⟨rfl, rfl, [], rfl, rfl⟩
  | cons arrival others =>
    rw [read, left] at ran
    cases found with
    | some response =>
      cases ran
      exact Or.inl ⟨rfl, rfl, [], rfl, rfl⟩
    | none =>
      cases arrival with
      | elapsed =>
        cases ran
        exact Or.inl ⟨rfl, rfl, [.elapsed], rfl, rfl⟩
      | closed =>
        cases ran
        exact Or.inl ⟨rfl, rfl, [.closed], rfl, rfl⟩
      | chunk text => exact Or.inr ⟨rfl, text, others, rfl, ran⟩

/-- A read that stops has taken what its buffer held. -/
theorem read_stops {arrivals before later : List Arrival} {result : FrameRead}
    (framed : Framed number comment sent)
    (arrived : buffer ++ arrivals.flatMap Arrival.text <+:
      Blocks.write '\n' (sent.map (Sent.block comment)))
    (left : takePayload number buffer.length buffer = (result.response?, rest))
    (split : arrivals = before ++ later) (silent : before.flatMap Arrival.text = []) :
    ∃ before count, arrivals = before ++ later ∧
      Taken number comment sent (buffer ++ before.flatMap Arrival.text) rest result.response?.toList
        count ∧ (result.response? = none → takeBlock rest = none) := by
  obtain ⟨count, taken, waits⟩ := takePayload_spec framed arrived (Nat.le_refl _) left
  refine ⟨before, count, split, ?_, waits⟩
  rw [silent, List.append_nil]
  exact taken

/-- `read` takes items up to the first response, and gives up only on a part of one. -/
theorem read_spec {arrivals later : List Arrival} {result : FrameRead}
    (framed : Framed number comment sent)
    (arrived : buffer ++ arrivals.flatMap Arrival.text <+:
      Blocks.write '\n' (sent.map (Sent.block comment)))
    (ran : read number buffer arrivals = (result, rest, later)) :
    ∃ before count, arrivals = before ++ later ∧
      Taken number comment sent (buffer ++ before.flatMap Arrival.text) rest result.response?.toList
        count ∧ (result.response? = none → takeBlock rest = none) := by
  induction arrivals generalizing buffer sent with
  | nil =>
    obtain ⟨found, after, left, ⟨rfl, rfl, before, split, silent⟩ | ⟨-, text, others, more, -⟩⟩ :=
      of_read ran
    · exact read_stops framed arrived left split silent
    · contradiction
  | cons arrival others ih =>
    obtain ⟨found, after, left,
      ⟨rfl, rfl, before, split, silent⟩ | ⟨rfl, text, rest', more, goesOn⟩⟩ := of_read ran
    · exact read_stops framed arrived left split silent
    · obtain ⟨rfl, rfl⟩ := List.cons.inj more
      obtain ⟨count, taken, -⟩ := takePayload_spec framed arrived (Nat.le_refl _) left
      have ahead := taken.ahead arrived
      rw [List.flatMap_cons, ← List.append_assoc] at ahead
      obtain ⟨before, further, split, later, waits⟩ := ih (framed.drop count) ahead goesOn
      refine ⟨.chunk text :: before, count + further, by rw [split, List.cons_append], ?_, waits⟩
      have first := taken.more (text ++ before.flatMap Arrival.text)
      rw [← List.append_assoc after] at first
      exact first.trans later

/-- What has been read, read after read. -/
theorem reads_spec {arrivals later : List Arrival} {count : Nat} {results : List FrameRead}
    (framed : Framed number comment sent)
    (arrived : buffer ++ arrivals.flatMap Arrival.text <+:
      Blocks.write '\n' (sent.map (Sent.block comment)))
    (ran : reads number buffer arrivals count = (results, rest, later)) :
    ∃ before taken, arrivals = before ++ later ∧
      Taken number comment sent (buffer ++ before.flatMap Arrival.text) rest
        (results.filterMap FrameRead.response?) taken ∧
      ∀ result, results.getLast? = some result → result.response? = none →
        takeBlock rest = none := by
  induction count generalizing buffer arrivals sent results with
  | zero =>
    cases ran
    refine ⟨[], 0, rfl, ?_, fun _ absent => by contradiction⟩
    rw [List.flatMap_nil, List.append_nil]
    exact .start rest
  | succ count ih =>
    obtain ⟨⟨result, middle, left⟩, first⟩ :
        ∃ triple, read number buffer arrivals = triple := ⟨_, rfl⟩
    obtain ⟨⟨others, ended, remaining⟩, second⟩ :
        ∃ triple, reads number middle left count = triple :=
      ⟨_, rfl⟩
    simp only [reads, first, second] at ran
    cases ran
    obtain ⟨before, taken, split, firstTaken, firstWaits⟩ := read_spec framed arrived first
    subst split
    rw [List.flatMap_append, ← List.append_assoc] at arrived
    obtain ⟨between, further, split, goesOn, waits⟩ :=
      ih (framed.drop taken) (firstTaken.ahead arrived) second
    refine ⟨before ++ between, taken + further, by rw [split, List.append_assoc], ?_, ?_⟩
    · have both := (firstTaken.more (between.flatMap Arrival.text)).trans goesOn
      rw [List.append_assoc, ← List.flatMap_append] at both
      rw [filterMap_cons_toList]
      exact both
    · intro last isLast unread
      cases others with
      | cons second more =>
        rw [List.getLast?_cons_cons] at isLast
        exact waits last isLast unread
      | nil =>
        obtain rfl := Option.some.inj isLast
        cases count with
        | zero =>
          cases second
          exact firstWaits unread
        | succ count => simp [reads] at second

/-- What cannot be taken off is no whole block, so all that have arrived have been taken. -/
theorem Taken.all {text : List Char} {responses : List Json} {count whole : Nat}
    (framed : Framed number comment sent)
    (taken : Taken number comment sent text rest responses count)
    (arrived : text ++ coming <+: Blocks.write '\n' (sent.map (Sent.block comment)))
    (waits : takeBlock rest = none)
    (there : Blocks.write '\n' ((sent.take whole).map (Sent.block comment)) <+: text) :
    (sent.take whole).filterMap (Sent.value? number) <+: responses := by
  suffices sent.take whole <+: sent.take count by
    rw [← taken.found]
    exact this.filterMap _
  by_cases early : whole ≤ count
  · exact List.take_prefix_take_left early
  · rcases Nat.lt_or_ge count sent.length with inside | all
    · -- The next block would be there whole, and could be taken.
      exfalso
      have next : sent.drop count = sent[count] :: sent.drop (count + 1) :=
        List.drop_eq_getElem_cons inside
      have ahead := taken.ahead arrived
      rw [next, List.map_cons] at ahead
      have short := Blocks.waits_of_prefix (framed.solid _ (List.getElem_mem inside))
        ((List.prefix_append rest coming).trans ahead) waits
      have earlier : sent.take (count + 1) <+: sent.take whole :=
        List.take_prefix_take_left (by omega)
      obtain ⟨more, split⟩ := earlier
      have fits := there.length_le
      rw [← split, List.take_succ_eq_append_getElem inside, taken.whole] at fits
      simp only [List.map_append, Blocks.write_append, List.length_append, List.map_cons,
        List.map_nil, Blocks.write_cons, List.length_cons] at fits
      omega
    · rw [List.take_of_length_le all]
      exact List.take_prefix ..

end UnreadSseSession

/-! ## The request that is read -/

/-- What a client posts. -/
structure Posted where
  /-- The text of the operations. -/
  query : List Char
  /-- Which of them is meant, where it says so. -/
  operationName : Option (List Char)
  /-- The variables, where it has any. -/
  variables_ : Option Json

namespace Posted

variable {number : List Char → Option (List Char)} {posted : Posted}

/-- The body it is posted in. -/
def toJson (posted : Posted) : Json :=
  .object (("query".toList, .string posted.query) ::
    (posted.operationName.map fun name => ("operationName".toList, .string name)).toList ++
    (posted.variables_.map fun variables_ => ("variables".toList, variables_)).toList)

/-- The request it stands for, where `serde_json` keeps its variables. -/
def request (number : List Char → Option (List Char)) (posted : Posted) : Option GraphQLRequest :=
  ((posted.variables_.getD .null).keep number).map fun variables_ =>
    { query := posted.query, operationName := posted.operationName,
      variables_ := variablesFromJson variables_ }

/-- The members of a posted body are those of the fields. -/
theorem members {members : List (List Char × Json)} (isBody : posted.toJson = .object members)
    {depth : Nat} (proper : ∀ value ∈ posted.variables_, Json.Proper depth value) :
    ∀ member ∈ members, GraphQLRequestBody.isField member.1 = true ∧
      Json.Proper depth member.2 := by
  obtain rfl := Json.object.inj isBody
  have text : ∀ characters, Json.Proper depth (.string characters) := by
    cases depth <;> exact fun _ => trivial
  have isQuery : GraphQLRequestBody.isField "query".toList = true := by decide
  have isName : GraphQLRequestBody.isField "operationName".toList = true := by decide
  have isVariables : GraphQLRequestBody.isField "variables".toList = true := by decide
  intro member inside
  rcases List.mem_append.mp inside with fixed | last
  · rcases List.mem_cons.mp fixed with rfl | name
    · exact ⟨isQuery, text _⟩
    · obtain ⟨characters, -, rfl⟩ := Option.map_eq_some_iff.mp (Option.mem_toList.mp name)
      exact ⟨isName, text _⟩
  · obtain ⟨value, given, rfl⟩ := Option.map_eq_some_iff.mp (Option.mem_toList.mp last)
    exact ⟨isVariables, proper value given⟩

/-- A posted body is decoded to its fields. -/
theorem ofJson_toJson (posted : Posted) :
    GraphQLRequestBody.ofJson number posted.toJson =
      ((posted.variables_.getD .null).keep number).map fun variables_ =>
        { query := posted.query, operationName := posted.operationName, variables_ } := by
  obtain ⟨query, operationName, variables_⟩ := posted
  have decoded : GraphQLRequestBody.ofJson number (toJson ⟨query, operationName, variables_⟩) =
      GraphQLRequestBody.decodeFields number (some (.string query)) (operationName.map .string)
        variables_ := by
    cases operationName <;> cases variables_ <;> rfl
  have named : decodeName (operationName.map .string) = some operationName := by
    cases operationName <;> rfl
  rw [decoded, GraphQLRequestBody.decodeFields, named]
  cases (variables_.getD .null).keep number <;> rfl

/-- Where a posted body is decoded, it becomes the request it stands for. -/
theorem request_eq (posted : Posted) :
    posted.request number = (GraphQLRequestBody.ofJson number posted.toJson).map
      GraphQLRequestBody.intoRequest := by
  rw [ofJson_toJson, request, Option.map_map]
  congr 1
  funext value
  cases value <;> rfl

/-- A posted body is read as it was written. -/
theorem fromSlice_print (posted : Posted)
    (proper : ∀ value ∈ posted.variables_, Json.Proper 126 value) :
    GraphQLRequestBody.fromSlice number posted.toJson.print =
      GraphQLRequestBody.ofJson number posted.toJson := by
  obtain ⟨members_, isBody⟩ : ∃ members_, posted.toJson = .object members_ := ⟨_, rfl⟩
  have fields := members isBody proper
  have read : Json.parseAsked GraphQLRequestBody.isField NotificationSignal.nestingLimit
      posted.toJson.print = some posted.toJson := by
    rw [isBody]
    exact Json.parseAsked_print (fun member inside => (fields member inside).1)
      fun member inside => (fields member inside).2
  rw [GraphQLRequestBody.fromSlice, read, Option.bind_some]

/-- Variables as `serde_json` keeps them are those of the request. -/
theorem request_of_kept {variables_ : List (List Char × Json)}
    (given : posted.variables_ = some (.object variables_))
    (kept : Json.Kept number (.object variables_)) :
    posted.request number = some
      { query := posted.query, operationName := posted.operationName, variables_ } := by
  rw [request, given, Option.getD_some, Json.keep_of_kept kept]
  rfl

/-- A posted body is answered by its size and its variables. -/
theorem answered (posted : Posted) (proper : ∀ value ∈ posted.variables_, Json.Proper 126 value)
    {headers : List (String × List UInt8)} (wants : wantsEventStream headers = true) :
    graphqlHandler number headers posted.toJson.print =
      if bodyLimit < String.utf8Len posted.toJson.print then .payloadTooLarge
      else match posted.request number with
        | none => .badRequest
        | some request => .sse request := by
  rw [graphqlHandler, fromSlice_print posted proper, request_eq]
  cases GraphQLRequestBody.ofJson number posted.toJson with
  | none => rfl
  | some parsed =>
    simp only [wants, if_true]
    rfl

end Posted

open UnreadSseSession in
/-- A subscription is executed as it was posted: where its body is no larger than the limit and
`serde_json` keeps its variables, with these. And wherever its event stream is cut, the responses
are read in order, none before all of it has arrived and none later than that. -/
theorem event_stream_reads_as_written (number : List Char → Option (List Char)) {sse : Sse}
    (documented : sse.Documented) {headers : List (String × List UInt8)}
    (wants : wantsEventStream headers = true) {posted : Posted}
    (properRequest : ∀ value ∈ posted.variables_, Json.Proper 126 value) {sent : List Sent}
    (proper : ∀ response, .next response ∈ sent →
      Json.Proper NotificationSignal.nestingLimit response)
    {arrivals later : List Arrival}
    (arrived : arrivals.flatMap Arrival.text <+: sent.flatMap (Sent.text sse)) {count : Nat}
    {results : List FrameRead} {rest : List Char}
    (ran : reads number [] arrivals count = (results, rest, later)) :
    (graphqlHandler number headers posted.toJson.print =
      if bodyLimit < String.utf8Len posted.toJson.print then .payloadTooLarge
      else match posted.request number with
        | none => .badRequest
        | some request => .sse request) ∧
    (∀ variables_, posted.variables_ = some (.object variables_) →
      Json.Kept number (.object variables_) → posted.request number = some
        { query := posted.query, operationName := posted.operationName, variables_ }) ∧
    ∃ before, arrivals = before ++ later ∧
      (∃ taken, results.filterMap FrameRead.response? =
          (sent.take taken).filterMap (Sent.value? number) ∧
        (sent.take taken).flatMap (Sent.text sse) <+: before.flatMap Arrival.text) ∧
      ∀ last, results.getLast? = some last → last.response? = none → ∀ whole,
        (sent.take whole).flatMap (Sent.text sse) <+: before.flatMap Arrival.text →
          (sent.take whole).filterMap (Sent.value? number) <+:
            results.filterMap FrameRead.response? := by
  refine ⟨posted.answered properRequest wants, fun _ => Posted.request_of_kept, ?_⟩
  obtain ⟨comment, oneLine, text⟩ := text_sent documented
  have each : ∀ item ∈ sent, ∀ response, item = .next response →
      Json.Proper NotificationSignal.nestingLimit response := by
    rintro item member response rfl
    exact proper response member
  have framed : Framed number comment sent :=
    ⟨fun item member => solid_block oneLine (each item member),
      fun item member => payload_block oneLine (each item member) number⟩
  have part : ∀ length, (sent.take length).flatMap (Sent.text sse) =
      Blocks.write '\n' ((sent.take length).map (Sent.block comment)) := fun length =>
    text _ fun response member => proper response (List.mem_of_mem_take member)
  rw [text sent proper] at arrived
  obtain ⟨before, taken, rfl, found, waits⟩ := reads_spec framed arrived ran
  refine ⟨before, rfl, ⟨taken, found.found.symm, ?_⟩, ?_⟩
  · have whole : before.flatMap Arrival.text =
        Blocks.write '\n' ((sent.take taken).map (Sent.block comment)) ++ rest := found.whole
    rw [part taken, whole]
    exact List.prefix_append ..
  · intro last isLast unread whole there
    rw [part whole] at there
    rw [List.flatMap_append] at arrived
    exact found.all framed arrived (waits last isLast unread) there

/-- An event stream as documented. -/
def sampleSse : Sse where
  event name data := "event: ".toList ++ name ++ '\n' :: ("data: ".toList ++ data) ++ ['\n', '\n']
  keepAlive := [':', '\n', '\n']

/-- Integers of no more than 18 digits are kept as they are. No other numerals occur here. -/
def sampleNumber (numeral : List Char) : Option (List Char) :=
  if numeral.all Char.isDigit && numeral.length ≤ 18 then some numeral else none

/-- A response whose text looks like the end of an event. -/
def sampleResponse : Json :=
  .object [("count".toList, .number ['7']), ("data".toList, .string "a\n\ndata: b".toList)]

/-- The response goes out after a keep-alive. -/
def sampleSent : List Sent := [.keepAlive, .next sampleResponse]

/-- The body arrives in two pieces. -/
def sampleArrivals : List UnreadSseSession.Arrival :=
  let body := sampleSent.flatMap (Sent.text sampleSse)
  [.chunk (body.take 20), .chunk (body.drop 20), .closed]

/-- The headers of a subscription. -/
def sampleHeaders : List (String × List UInt8) :=
  [("accept", eventStream.map fun c => UInt8.ofNat c.toNat)]

/-- The variables of a subscription. -/
def sampleVariables : List (List Char × Json) :=
  [("first".toList, .number ['5']), ("kinds".toList, .array [.string "Added".toList, .null])]

/-- What it asks for. -/
def samplePosted : Posted :=
  { query := "subscription S { events }".toList, operationName := some ['S'],
    variables_ := some (.object sampleVariables) }

/-- The request it is executed as. -/
def sampleRequest : GraphQLRequest :=
  { query := samplePosted.query, operationName := some ['S'], variables_ := sampleVariables }

/-- The variables are as they are kept. -/
theorem sample_kept : Json.Kept sampleNumber (.object sampleVariables) := by
  refine .object ?_ (by decide)
  refine List.forall_mem_cons.mpr ⟨.number rfl, List.forall_mem_singleton.mpr ?_⟩
  exact .array (List.forall_mem_cons.mpr ⟨.string _, List.forall_mem_singleton.mpr .null⟩)

/-- The variables are nested no deeper than they may be. -/
theorem sample_nested : ∀ value ∈ samplePosted.variables_, Json.Proper 126 value := by
  intro value given
  obtain rfl := Option.some.inj given
  refine List.forall_mem_cons.mpr ⟨rfl, List.forall_mem_singleton.mpr ?_⟩
  exact List.forall_mem_cons.mpr ⟨trivial, List.forall_mem_singleton.mpr trivial⟩

/-- What is sent is nested no deeper than it may be. -/
theorem sample_proper : ∀ response, .next response ∈ sampleSent →
    Json.Proper NotificationSignal.nestingLimit response := by
  intro response member
  obtain rfl : response = sampleResponse := by simpa [sampleSent] using member
  exact List.forall_mem_cons.mpr ⟨rfl, List.forall_mem_singleton.mpr trivial⟩

open UnreadSseSession in
/-- The first of two reads gives a response, and the second none. -/
theorem sample_answers :
    (reads sampleNumber [] sampleArrivals 2).1.map (fun result => result.response?.isSome) =
        [true, false] ∧
      (reads sampleNumber [] sampleArrivals 2).2.2.length = 0 := by decide +kernel

open UnreadSseSession in
/-- The request is executed with its variables, and the response is read from both pieces, with the
end of the stream after it. -/
theorem event_stream_reads_as_written_sample :
    graphqlHandler sampleNumber sampleHeaders samplePosted.toJson.print = .sse sampleRequest ∧
    [sampleResponse] <+:
      (reads sampleNumber [] sampleArrivals 2).1.filterMap FrameRead.response? := by
  have documented : sampleSse.Documented :=
    ⟨fun _ _ _ _ => rfl, [], fun _ member => by contradiction, rfl⟩
  have wants : wantsEventStream sampleHeaders = true := by decide +kernel
  have small : ¬ bodyLimit < String.utf8Len samplePosted.toJson.print := by decide +kernel
  have arrived : sampleArrivals.flatMap Arrival.text <+:
      sampleSent.flatMap (Sent.text sampleSse) := by decide +kernel
  obtain ⟨answers, all⟩ := sample_answers
  obtain ⟨⟨results, rest, later⟩, ran⟩ :
      ∃ triple, reads sampleNumber [] sampleArrivals 2 = triple := ⟨_, rfl⟩
  obtain ⟨answered, asPosted, before, split, -, none_⟩ :=
    event_stream_reads_as_written sampleNumber documented wants sample_nested sample_proper arrived
      ran
  have executed : samplePosted.request sampleNumber = some sampleRequest :=
    asPosted sampleVariables rfl sample_kept
  rw [if_neg small, executed] at answered
  rw [ran] at answers all ⊢
  obtain rfl : later = [] := List.length_eq_zero_iff.mp all
  rw [List.append_nil] at split
  obtain ⟨first, others, rfl, -, answers⟩ := List.map_eq_cons_iff.mp answers
  obtain ⟨last, rest, rfl, unread, answers⟩ := List.map_eq_cons_iff.mp answers
  obtain rfl := List.map_eq_nil_iff.mp answers
  have isNone : last.response? = none := by simpa using unread
  have whole : (sampleSent.take 2).flatMap (Sent.text sampleSse) <+:
      before.flatMap Arrival.text := by
    rw [← split]
    exact List.prefix_rfl
  exact ⟨answered, none_ last rfl isNone 2 whole⟩

end SvcNotifier
