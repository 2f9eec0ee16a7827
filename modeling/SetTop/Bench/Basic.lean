import SetTop.Cache.Store
import SetTop.Files.Tree
import SetTop.Power.Switch
import SetTop.Video.Basic

/-!
The bench: everything outside the program that a run can touch.

What the clock, the files, network peers, helper programs, the dice, the terminal and the video
framework answer is laid out beforehand in queues, and every request leaves an entry in the journal,
so a run is a function of the bench it starts from.
-/

namespace SetTop

/-- Where a connection leads: a socket in the file system, or a host and a port. -/
inductive Address
  | path (p : String)
  | host (name : String) (port : Json)

inductive Event
  | sleep (seconds : Json)
  | connect (address : Address)
  | bind (address : Address)
  | listen (backlog : Nat)
  | send (label : String) (data : String)
  | shutdown (label : String)
  | close (label : String)
  | checkCall (arguments : List Json)
  | checkOutput (arguments : List Json)
  | spawn (arguments : List String)
  | environment (entries : List (String × String))
  | tessdata (path text : String)
  | randint (low high : Num)
  | uniform (low high : Num)
  | shuffle (length : Nat)
  | warning (text : String)
  | post (url : String)
  | snmpGet (oid : String)
  | snmpSet (oid : String) (value : Int)
  | cecOpen (device : String)
  | cecRescan
  | cecTransmit (command : String)
  | addText (text : String)
  | clear
  | serial (file : Option String)
  | press (key : Json)
  | parseLaunch (description : String)
  | setState (state : String)
  | timeoutAdd (milliseconds : Num) (handler : String)
  | sourceRemove (id : Nat)
  | setProperty (element key : String) (value : Json)
  | emit (element signal : String)
  | sendEvent (element event : String)
  | dot (name : String)
  | mainloop (phase : String)

inductive Drawing
  | rectangle (corner opposite : Num × Num) (colour : List Num) (thickness : Int)
  | text (text : String) (origin : Num × Num) (colour : List Num) (scale : Num)

/-- How a network peer behaves. A `none` among the chunks is a pause that ends in a timeout. -/
structure Peer where
  refusal : Option (Nat × String) := none
  chunks : List (Option (List Char)) := []
  label : String := "sock"
  broken : Bool := false
  /-- how many sends go through before the connection breaks; `none` if it never does -/
  lasts : Option Nat := none
  ownName : String × Int := ("192.168.0.8", 12345)
  descriptor : Int := 3

/-- A connection: what the peer has still to say, how long to wait for it, what was received and not
yet used, and whether the peer has said all. -/
structure Link where
  peer : Peer
  timeout : Option Num := none
  buffer : List Char := []
  ended : Bool := false

structure Helper where
  refusal : Option (Nat × String) := none
  status : Int := 0
  output : String := ""
  errors : String := ""
  creates : List String := []
  recognised : Option String := none
  extension : String := ".txt"

inductive Draw
  | number (n : Num)
  | permutation (p : List Int)

inductive SnmpReply
  | failed (reason : String)
  | missing (oid : Option String)
  | value (v : Json) (oid : Option String)

structure CecBus where
  opens : Bool := true
  adapters : List String := []
  primary : Int := 1
  active : List Int := []
  failing : List String := []

structure Bench where
  clock : Num := .real 1000000000.0
  tick : Num := .real 0.0
  cwd : String := "/"
  home : String := "/"
  files : FileTree := {}
  environment : List (String × String) := []
  peers : List Peer := []
  visitors : List Peer := []
  ready : List (List Int) := []
  draws : List Draw := []
  helpers : List Helper := []
  executables : List (String × String) := []
  statuses : List Int := []
  snmp : List SnmpReply := []
  cec : CecBus := {}
  serial : Port := .lines []
  keys : List Int := []
  terminal : Int × Int := (50, 120)
  rig : Rig := {}
  /-- what the capture delivers while the script waits; a `none` is a wait in vain -/
  feed : List (Option Delivery) := []
  /-- stores of results, by file -/
  stores : List (String × CacheStore) := []
  /-- how many entries a store has room for -/
  storeLimit : Nat := 1000000000
  /-- the pattern that the test picture was set to -/
  pattern : Option Json := none
  links : List Link := []
  temporaries : Nat := 0
  journal : List Event := []
  drawn : List Drawing := []
  written : List (String × List Nat) := []
  out : String := ""
  err : String := ""

end SetTop
