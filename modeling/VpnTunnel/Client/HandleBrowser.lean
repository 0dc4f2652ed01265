import VpnTunnel.Crypto.FrameRoundTrip
import VpnTunnel.Foundation.Separator
import VpnTunnel.Foundation.Upper

namespace VpnTunnel.Client

open VpnTunnel.Crypto
open VpnTunnel.Foundation

/-! `handle_browser` and `_handle_http_request` of the proxy, up to the request
that goes into the tunnel. -/

def bufferSize : ℕ := 65536

def crLf : List UInt8 := [0x0D, 0x0A]
def blankLine : List UInt8 := [0x0D, 0x0A, 0x0D, 0x0A]

/-- The arguments of `_handle_http_request`. -/
structure HttpCall where
  method : List Char
  url : List Char
  headersStr : List Char
  body : Bytes
  deriving DecidableEq, Repr

/-- `header_body[1].encode("utf-8") if len(header_body) > 1 else b""` -/
def bodyOf : List (List Char) → Bytes
  | _ :: body :: _ => body.flatMap String.utf8EncodeChar
  | _ => []

/-- The request line is split at blanks, and the text at its first empty line. -/
def httpCall (raw : Bytes) : Option HttpCall :=
  let requestText := decodeAll raw
  let firstLine := (splitAll (asciiChars crLf) requestText).headD []
  match splitAll [' '] firstLine with
  | method :: target :: _ :: _ =>
      let method := upper method
      if method = ['C', 'O', 'N', 'N', 'E', 'C', 'T'] then none
      else
        let headerBody := splitAt (asciiChars blankLine) 1 requestText
        let headersSection := headerBody.headD []
        let headerLines := (splitAll (asciiChars crLf) headersSection).drop 1
        some {
          method
          url := target
          headersStr := (asciiChars crLf).intercalate headerLines
          body := bodyOf headerBody }
  | _ => none

/-- `none` where the request does not get to `_handle_http_request`. -/
def handleBrowser : SockM (Option HttpCall) := do
  let raw ← recv bufferSize
  return if raw = [] then none else httpCall raw

/-- A line without a colon is passed over. -/
def addHeader (headers : List (PyText × JsonTree)) (line : List Char) :
    List (PyText × JsonTree) :=
  match partitionAt [':'] line with
  | some (key, value) =>
      setMember headers (pyText (strip key)) (.str (pyText (strip value)))
  | none => headers

def parseHeaders (headersStr : List Char) : List (PyText × JsonTree) :=
  (splitAll (asciiChars crLf) headersStr).foldl addHeader []

def requestTree (method url : List Char) (headers : List (PyText × JsonTree))
    (body : Bytes) : JsonTree :=
  .object [
    (pyText "method".toList, .str (pyText method)),
    (pyText "url".toList, .str (pyText url)),
    (pyText "headers".toList, .object headers),
    (pyText "body".toList,
      .str (pyText (if body = [] then [] else (toHex body).toList)))]

def encodeRequest (method url : List Char) (headers : List (PyText × JsonTree))
    (body : Bytes) : Bytes :=
  dumpsBytes (requestTree method url headers body)

/-- What `_handle_http_request` gives to `tunnel.send_request`. -/
def HttpCall.request (call : HttpCall) : Bytes :=
  encodeRequest call.method call.url (parseHeaders call.headersStr) call.body

theorem ascii_blankLine : ∀ byte ∈ blankLine, byte.toNat < 0x80 := by
  decide +kernel

theorem splitAt_one {α : Type*} [DecidableEq α] (separator items : List α) :
    splitAt separator 1 items =
      match partitionAt separator items with
      | none => [items]
      | some (before, after) => [before, after] := by
  rw [splitAt]
  cases partitionAt separator items with
  | none => rfl
  | some parts => rfl

theorem httpCall_body {raw : Bytes} {call : HttpCall}
    (called : httpCall raw = some call) :
    call.body =
      match partitionAt blankLine raw with
      | none => []
      | some (_, after) => (decodeAll after).flatMap String.utf8EncodeChar := by
  have cut := partitionAt_decodeAll ascii_blankLine (by decide) raw
  unfold httpCall at called
  dsimp only at called
  split at called
  case h_1 method target version more words =>
    split at called
    case isTrue => cases called
    case isFalse =>
      cases called
      rw [splitAt_one, cut]
      cases partitionAt blankLine raw with
      | none => rfl
      | some parts => rfl
  case h_2 => cases called

/-! What the request loads as. -/

theorem nodup_setMember {members : List (PyText × JsonTree)}
    (distinct : (members.map Prod.fst).Nodup) (key : PyText) (value : JsonTree) :
    ((setMember members key value).map Prod.fst).Nodup := by
  rw [setMember_eq_assign]
  exact nodup_keys_assign distinct key value

def IsTextDict (members : List (PyText × JsonTree)) : Prop :=
  ∀ member ∈ members, IsText member.1 ∧ member.2.Plain

theorem isTextDict_setMember {members : List (PyText × JsonTree)}
    (texts : IsTextDict members) {key : PyText} {value : JsonTree}
    (named : IsText key) (plain : value.Plain) :
    IsTextDict (setMember members key value) := by
  intro member present
  rw [setMember_eq_assign] at present
  rcases mem_assign present with old | rfl
  · exact texts member old
  · exact ⟨named, plain⟩

theorem plainMembers_of_isTextDict {members : List (PyText × JsonTree)}
    (texts : IsTextDict members) : JsonTree.PlainMembers members := by
  induction members with
  | nil => trivial
  | cons member members ih =>
      obtain ⟨named, plain⟩ := texts member List.mem_cons_self
      exact ⟨named, plain,
        ih fun other inside => texts other (List.mem_cons_of_mem _ inside)⟩

theorem plain_addHeaders (lines : List (List Char))
    {headers : List (PyText × JsonTree)} (distinct : (headers.map Prod.fst).Nodup)
    (texts : IsTextDict headers) :
    (JsonTree.object (lines.foldl addHeader headers)).Plain := by
  induction lines generalizing headers with
  | nil => exact ⟨distinct, plainMembers_of_isTextDict texts⟩
  | cons line lines ih =>
      rw [List.foldl_cons, addHeader]
      split
      case h_1 key value _ =>
        exact ih (nodup_setMember distinct _ _)
          (isTextDict_setMember texts (isText_pyText _) (isText_pyText _))
      case h_2 => exact ih distinct texts

theorem plain_parseHeaders (headersStr : List Char) :
    (JsonTree.object (parseHeaders headersStr)).Plain :=
  plain_addHeaders _ .nil nofun

theorem loadsBytes_request (call : HttpCall) :
    loadsBytes call.request =
      some (requestTree call.method call.url (parseHeaders call.headersStr)
        call.body) := by
  apply loadsBytes_dumpsBytes
  refine ⟨?_, isText_pyText _, isText_pyText _, isText_pyText _, isText_pyText _,
    isText_pyText _, plain_parseHeaders call.headersStr, isText_pyText _,
    isText_pyText _, trivial⟩
  change ([pyText "method".toList, pyText "url".toList, pyText "headers".toList,
    pyText "body".toList] : List PyText).Nodup
  simp only [List.nodup_cons, List.mem_cons, pyText_eq_iff, List.not_mem_nil]
  decide

end VpnTunnel.Client
