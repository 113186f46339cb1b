import Mathlib.Logic.Function.Basic
import NrfFeather.Lib.Json
import NrfFeather.Lib.Prog
import NrfFeather.Zephyr

/-!
# Publishing to the cloud

`tls_setup`, `socket_setup` and `cloud_publish` of `samples/https/src/cloud/cloud.c`, over the calls
they make: cJSON, the socket layer and the HTTP client. Any of these may fail. The world behind
them is the descriptors that are open, each with the options it has accepted, the address lists
that are held, and the cJSON objects.
-/

namespace NrfFeather

open Effects JsonText

/-! ## Data -/

/-- The `CONFIG_CLOUD_` options. -/
structure CloudConfig where
  tlsSecTag : Nat
  hostname : String
  port : UInt16
  publishPath : String

/-- `struct device_data`. -/
structure DeviceData where
  doSomething : Bool

/-- `struct sockaddr_in`. -/
structure SockAddrIn where
  sinAddr : UInt32
  sinPort : UInt16

/-- `struct addrinfo`, at its address. -/
structure AddrInfo where
  ptr : Nat
  aiFamily : Nat
  aiAddr : SockAddrIn

/-- The values of `TLS_PEER_VERIFY`. -/
inductive TlsPeerVerify where
  | none
  | optional
  | required
  deriving DecidableEq

/-- The options of a socket, with their values. -/
inductive SockOpt where
  | soRcvtimeo (sec : Nat)
  | soSndtimeo (sec : Nat)
  | tlsPeerVerify (verify : TlsPeerVerify)
  | tlsSecTagList (tags : List Nat)
  | tlsCiphersuiteList (suites : List Nat)
  | tlsHostname (name : String)
  | tlsSessionCache (enabled : Bool)
  deriving DecidableEq

/-- A printed text, at its address. -/
structure Msg where
  ptr : Nat
  text : List Char

inductive HttpMethod where
  | get
  | post
  deriving DecidableEq

/-- `struct http_request`, as far as it concerns what is sent. -/
structure HttpRequest where
  method : HttpMethod
  url : String
  host : String
  protocol : String
  payload : Msg
  payloadLen : Nat
  contentTypeValue : String
  headerFields : List String

def AF_INET : Nat := 1

def SOCK_STREAM : Nat := 1

def IPPROTO_TLS_1_2 : Nat := 258

/-! ## Calls -/

inductive NetCall where
  | cJSONCreateObject
  | cJSONAddBoolToObject (obj : Option Nat) (name : String) (value : Bool)
  | cJSONPrintUnformatted (obj : Option Nat)
  | cJSONDelete (obj : Option Nat)
  | cJSONFree (msg : Msg)
  | kFree (msg : Msg)
  | getaddrinfo (host : String) (aiFamily aiSocktype : Nat)
  | freeaddrinfo (res : AddrInfo)
  | socket (family type proto : Nat)
  | setsockopt (fd : Int) (opt : SockOpt)
  | connect (fd : Int) (addr : SockAddrIn)
  | close (fd : Int)
  | httpClientReq (fd : Int) (req : HttpRequest) (timeout : Int)

/-- What a call returns: `getaddrinfo` also delivers a list, and `setsockopt` and `connect` also
set `errno`. -/
@[reducible] def NetCall.Ans : NetCall → Type
  | .cJSONCreateObject => Option Nat
  | .cJSONAddBoolToObject _ _ _ => Bool
  | .cJSONPrintUnformatted _ => Option Msg
  | .cJSONDelete _ | .cJSONFree _ | .kFree _ | .freeaddrinfo _ => Unit
  | .getaddrinfo _ _ _ => Int × AddrInfo
  | .setsockopt _ _ | .connect _ _ => Int × Int
  | .socket _ _ _ | .close _ | .httpClientReq _ _ _ => Int

/-- The call succeeded; whether closing a descriptor did is of no interest. -/
def NetCall.Ok : (c : NetCall) → c.Ans → Prop
  | .cJSONCreateObject, r => r.isSome
  | .cJSONAddBoolToObject _ _ _, r => r = true
  | .cJSONPrintUnformatted _, r => r.isSome
  | .getaddrinfo _ _ _, r => r.1 = 0
  | .socket _ _ _, r => 0 ≤ r
  | .setsockopt _ _, r => r.1 = 0
  | .connect _ _, r => r.1 = 0
  | .httpClientReq _ _ _, r => 0 ≤ r
  | _, _ => True

/-! ## The world -/

/-- An open socket: the options it has accepted, and, once it is connected, those it had accepted
before. -/
structure Sock where
  opts : List SockOpt
  connectedWith : Option (List SockOpt)

def Sock.accept (k : Sock) (opt : SockOpt) : Sock := { k with opts := k.opts ++ [opt] }

def Sock.connect (k : Sock) : Sock := { k with connectedWith := some k.opts }

structure NetState where
  socks : Int → Option Sock
  lists : Nat → Bool
  objs : Nat → Option (List (String × Json))

def NetState.setSock (s : NetState) (fd : Int) (k : Option Sock) : NetState :=
  { s with socks := Function.update s.socks fd k }

def NetState.setList (s : NetState) (ptr : Nat) (held : Bool) : NetState :=
  { s with lists := Function.update s.lists ptr held }

def NetState.setObj (s : NetState) (ptr : Nat) (ms : Option (List (String × Json))) : NetState :=
  { s with objs := Function.update s.objs ptr ms }

/-- What is known of the answers: a pointer or descriptor that is handed out was not in use;
`getaddrinfo` fails with a negative code; a `setsockopt` or `connect` that fails sets a positive
`errno`, and `connect` returns a negative value then; cJSON adds to and prints only objects that
are there, and prints what they hold. -/
def NetState.allows (s : NetState) : (c : NetCall) → c.Ans → Prop
  | .cJSONCreateObject, r => ∀ p, r = some p → s.objs p = none
  | .cJSONAddBoolToObject obj _ _, r => r = true → ∃ p ms, obj = some p ∧ s.objs p = some ms
  | .cJSONPrintUnformatted obj, r =>
    ∀ msg, r = some msg →
      ∃ p ms, obj = some p ∧ s.objs p = some ms ∧ msg.text = (Json.obj ms).render
  | .getaddrinfo _ _ _, r => r.1 < 0 ∨ r.1 = 0 ∧ s.lists r.2.ptr = false
  | .socket _ _ _, r => r = -1 ∨ 0 ≤ r ∧ s.socks r = none
  | .setsockopt fd _, r => r.1 = 0 ∧ (s.socks fd).isSome ∨ r.1 ≠ 0 ∧ 0 < r.2
  | .connect fd _, r => r.1 = 0 ∧ (s.socks fd).isSome ∨ r.1 < 0 ∧ 0 < r.2
  | _, _ => True

/-- The world after a call; a failed call changes nothing. -/
def NetState.next (s : NetState) : (c : NetCall) → c.Ans → NetState
  | .cJSONCreateObject, some p => s.setObj p (some [])
  | .cJSONAddBoolToObject (some p) name value, true =>
    s.setObj p ((s.objs p).map (· ++ [(name, .bool value)]))
  | .cJSONDelete (some p), _ => s.setObj p none
  | .getaddrinfo _ _ _, r => if r.1 = 0 then s.setList r.2.ptr true else s
  | .freeaddrinfo res, _ => s.setList res.ptr false
  | .socket _ _ _, r => if 0 ≤ r then s.setSock r (some ⟨[], none⟩) else s
  | .setsockopt fd opt, r => if r.1 = 0 then s.setSock fd ((s.socks fd).map (·.accept opt)) else s
  | .connect fd _, r => if r.1 = 0 then s.setSock fd ((s.socks fd).map Sock.connect) else s
  | .close fd, _ => s.setSock fd none
  | _, _ => s

def NetState.env : Env NetCall.Ans NetState := ⟨NetState.allows, NetState.next⟩

/-! ## The functions -/

def cJSONCreateObject : Prog NetCall.Ans (Option Nat) := .perform NetCall.cJSONCreateObject

def cJSONAddBoolToObject (obj : Option Nat) (name : String) (value : Bool) :
    Prog NetCall.Ans Bool :=
  .perform (NetCall.cJSONAddBoolToObject obj name value)

def cJSONPrintUnformatted (obj : Option Nat) : Prog NetCall.Ans (Option Msg) :=
  .perform (NetCall.cJSONPrintUnformatted obj)

def cJSONDelete (obj : Option Nat) : Prog NetCall.Ans Unit := .perform (NetCall.cJSONDelete obj)

def cJSONFree (msg : Msg) : Prog NetCall.Ans Unit := .perform (NetCall.cJSONFree msg)

def kFree (msg : Msg) : Prog NetCall.Ans Unit := .perform (NetCall.kFree msg)

def getaddrinfo (host : String) (aiFamily aiSocktype : Nat) :
    Prog NetCall.Ans (Int × AddrInfo) :=
  .perform (NetCall.getaddrinfo host aiFamily aiSocktype)

def freeaddrinfo (res : AddrInfo) : Prog NetCall.Ans Unit := .perform (NetCall.freeaddrinfo res)

def socket (family type proto : Nat) : Prog NetCall.Ans Int :=
  .perform (NetCall.socket family type proto)

def setsockopt (fd : Int) (opt : SockOpt) : Prog NetCall.Ans (Int × Int) :=
  .perform (NetCall.setsockopt fd opt)

def connect (fd : Int) (addr : SockAddrIn) : Prog NetCall.Ans (Int × Int) :=
  .perform (NetCall.connect fd addr)

def close (fd : Int) : Prog NetCall.Ans Int := .perform (NetCall.close fd)

def httpClientReq (fd : Int) (req : HttpRequest) (timeout : Int) : Prog NetCall.Ans Int :=
  .perform (NetCall.httpClientReq fd req timeout)

/-- `timeout`, in milliseconds. -/
def timeout : Int := 3 * 1000

section
variable (cfg : CloudConfig)

def tlsSetup (fd : Int) : Prog NetCall.Ans Int := do
  let (err, errno) ← setsockopt fd (.tlsPeerVerify .required)
  if err ≠ 0 then
    return -errno
  let (err, errno) ← setsockopt fd (.tlsSecTagList [cfg.tlsSecTag])
  if err ≠ 0 then
    return -errno
  let (err, errno) ← setsockopt fd (.tlsCiphersuiteList [0xc02b])
  if err ≠ 0 then
    return -errno
  let (err, errno) ← setsockopt fd (.tlsHostname cfg.hostname)
  if err ≠ 0 then
    return -errno
  let (err, errno) ← setsockopt fd (.tlsSessionCache true)
  if err ≠ 0 then
    return -errno
  return 0

/-- The middle of `socket_setup`, from the receive timeout to the connection; its result is the
`err` with which `clean_up` is reached. -/
def socketConnect (fd : Int) (res : AddrInfo) : Prog NetCall.Ans Int := do
  let (err, errno) ← setsockopt fd (.soRcvtimeo 5)
  if err ≠ 0 then
    return -errno
  let (err, errno) ← setsockopt fd (.soSndtimeo 5)
  if err ≠ 0 then
    return -errno
  let err ← tlsSetup cfg fd
  if err < 0 then
    return err
  let (err, errno) ← connect fd res.aiAddr
  if err < 0 then
    return -errno
  return err

/-- `clean_up` of `socket_setup`. -/
def cleanUp (res : AddrInfo) (fd err : Int) : Prog NetCall.Ans Int := do
  freeaddrinfo res
  if err < 0 ∧ fd > -1 then
    let _ ← close fd
    return err
  if err < 0 then
    return err
  else
    return fd

def socketSetup : Prog NetCall.Ans Int := do
  let (err, res) ← getaddrinfo cfg.hostname AF_INET SOCK_STREAM
  if err ≠ 0 then
    return err
  let res := { res with aiAddr := { res.aiAddr with sinPort := cfg.port } }
  let fd ← socket res.aiFamily SOCK_STREAM IPPROTO_TLS_1_2
  if fd = -1 then
    cleanUp res fd (-ECONNABORTED)
  else
    let err ← socketConnect cfg fd res
    cleanUp res fd err

/-- The request that carries a text. -/
def publishRequest (msg : Msg) : HttpRequest where
  method := .post
  url := cfg.publishPath
  host := cfg.hostname
  protocol := "HTTP/1.1"
  payload := msg
  payloadLen := msg.text.length
  contentTypeValue := "application/json"
  headerFields := ["Connection: close\r\n"]

def cloudPublish (data : DeviceData) : Prog NetCall.Ans Int := do
  let ret : Int := 0
  let obj ← cJSONCreateObject
  let _ ← cJSONAddBoolToObject obj "do_something" data.doSomething
  let msg ← cJSONPrintUnformatted obj
  cJSONDelete obj
  match msg with
  | none => return -ENOMEM
  | some msg =>
    let fd ← socketSetup cfg
    if fd < 0 then
      kFree msg
      -- the code of `socket_setup` is in `fd`, not in `ret`
      return ret
    let _ret ← httpClientReq fd (publishRequest cfg msg) timeout
    let _ ← close fd
    cJSONFree msg
    return 0

end

end NrfFeather
