import SetTop.Batch.Order
import SetTop.Cli.Arguments
import SetTop.Programs

/-!
Running a batch of tests.

Each test case is a script with its arguments. On the command line every word is a script of its own
if there is no separator; with one, each group between separators is a script and its arguments.

Tests run until one fails in a way that matters. `Launch.goesOn` is the rule for that, and what the
batch counts on the way (`Tally`) tells how it ends.
-/

namespace SetTop.Batch

abbrev TestCase := List String

/-- The groups between separators. Empty groups are left out. -/
def groups {α : Type} [BEq α] (sep : α) (xs : List α) : List (List α) :=
  go [] xs
where
  go (current : List α) : List α → List (List α)
    | [] => if current.isEmpty then [] else [current.reverse]
    | x :: rest =>
      if x == sep then
        if current.isEmpty then go [] rest else current.reverse :: go [] rest
      else go (x :: current) rest

def separator : String := "--"

/-- The test cases in a row of words, with a mark between them. Without one each word is a test
case. -/
def cases {α : Type} [BEq α] (mark : α) (words : List α) : List (List α) :=
  if words.contains mark then groups mark words else words.map fun x => [x]

def testCases (arguments : List String) : List TestCase := cases separator arguments

/-- A test that was run: how it ended, and whether it left an error without recovery. -/
structure Launch where
  test : TestCase
  status : Int
  unrecoverable : Bool
deriving DecidableEq

/-- Whether the batch goes on after a test. Told to keep going once, it goes on after failures that
are not the fault of what is tested; told twice, after all but errors without recovery. -/
def Launch.goesOn (keepGoing : Nat) (l : Launch) : Bool :=
  if l.unrecoverable then false
  else if l.status == 0 then true
  else if l.status ≥ 2 && keepGoing > 0 then true
  else keepGoing ≥ 2

structure Tally where
  runs : Nat := 0
  failures : Nat := 0
  last : Int := 0

def Tally.count (c : Tally) (l : Launch) : Tally :=
  ⟨c.runs + 1, if l.status == 0 then c.failures else c.failures + 1, l.status⟩

/-- The status of a batch: that of the only test, and otherwise whether one failed. -/
def Tally.status (c : Tally) : Int :=
  if c.runs == 1 then c.last else if c.failures == 0 then 0 else 1

inductive Order
  | rounds (r : Rounds TestCase)
  | shuffle (s : Shuffle TestCase)

def Order.next : Order → Act (Next TestCase × Order)
  | .rounds r => let (n, r) := r.next; return (n, .rounds r)
  | .shuffle s => do
    let (n, s) ← s.next
    return (n, .shuffle s)

structure Options where
  keepGoing : Nat := 0
  tag : String := ""
  output : String := "."
  report : Bool := true
  debug : Bool := false
  verbosity : Nat := 0

def runOne (o : Options) (test : TestCase) : Act Int := do
  let arguments := ((← bench).home ++ "/stbt-batch.d/run-one") :: test
  note (.spawn arguments)
  note (.environment [("do_html_report", if o.report then "true" else "false"), ("tag", o.tag),
    ("v", if o.debug then "-vv" else "-v"), ("verbose", toString o.verbosity)])
  return (← Programs.start arguments).status

def launch (o : Options) (test : TestCase) : Act Launch := do
  let status ← runOne o test
  let unrecoverable ← pathExists (o.output ++ "/latest" ++ o.tag ++ "/unrecoverable-error")
  return ⟨test, status, unrecoverable⟩

/-- Runs tests as long as the batch goes on. `fuel` bounds their number; a batch that needs more never
comes to an end, and neither does one that has no test to start with. -/
def runAll (o : Options) : Nat → Tally → Order → Act Tally
  | 0, _, _ => throw (.exhausted "processes")
  | fuel + 1, c, order => do
    let (n, order) ← order.next
    match n with
    | .test t =>
      let l ← launch o t
      if l.goesOn o.keepGoing then runAll o fuel (c.count l) order else return c.count l
    | .stop => return c
    | .stuck => throw (.exhausted "processes")

/-- How many tests at most are chosen by a draw. -/
def reach : Draw → Nat
  | .number _ => 1
  | .permutation p => p.length

/-- More tests than a batch runs that comes to an end: after these neither the helpers nor the draws
laid out on the bench can end it. -/
def limit (b : Bench) (tests : List TestCase) : Nat :=
  b.helpers.length + tests.length + b.draws.foldr (reach · + ·) 0 + 1

def help : String :=
"usage: 
  stbt batch run [options] test.py [test.py ...]
  stbt batch run [options] test.py arg [arg ...] -- test.py arg [arg ...] [-- ...])

positional arguments:
  test_name

options:
  -h, --help            show this help message and exit
  -1, --run-once        Run once. The default behaviour is to run the test
                        repeatedly as long as it passes.
  -k, --keep-going      Continue running after failures. Provide this argument
                        once to continue running after \"uninteresting\"
                        failures, and twice to continue running after any
                        failure (except those that would prevent any further
                        test from passing).
  -d, --debug           Enable \"stbt-debug\" dump of intermediate images.
  -v, --verbose         Verbose. Provide this argument once to print stbt
                        standard output. Provide this argument twice to also
                        print stbt stderr output.
  -o OUTPUT, --output OUTPUT
                        Output directory to save the report and test-run logs
                        under (defaults to the current directory).
  -t TAG, --tag TAG     Tag to add to test run directory names (useful to
                        differentiate directories when you intend to merge
                        test results from multiple machines).
  --shuffle             Run the test cases in a random order attempting to
                        spend the same total amount of time executing each
                        test case.
  --no-html-report      Don't generate an HTML report after each testrun;
                        generating the report can be slow if there are many
                        results in the output directory. You can still
                        generate the HTML reports afterwards with 'stbt batch
                        report'.
"

def grammar : Cli.Grammar :=
  { flags := [Cli.helpFlag, ⟨"once", ["-1", "--run-once"], none⟩,
      ⟨"keep_going", ["-k", "--keep-going"], none⟩, ⟨"debug", ["-d", "--debug"], none⟩, Cli.verboseFlag,
      ⟨"output", ["-o", "--output"], some .text⟩, ⟨"tag", ["-t", "--tag"], some .text⟩,
      ⟨"shuffle", ["--shuffle"], none⟩, ⟨"no_report", ["--no-html-report"], none⟩]
    operands := [⟨"test_name", .rest, .text⟩]
    help := help }

variable (items : List Cli.Item)

def Options.ofItems : Options :=
  { keepGoing := Cli.count "keep_going" items
    tag := ((Cli.value? "tag" items).map ("-" ++ ·)).getD ""
    output := (Cli.value? "output" items).getD "."
    report := Cli.count "no_report" items == 0
    debug := Cli.count "debug" items > 0
    verbosity := Cli.count "verbose" items }

def testsOf : List TestCase := testCases (Cli.operands "test_name" items)

def Order.ofItems : Order :=
  let again := Cli.count "once" items == 0
  if Cli.count "shuffle" items > 0 then .shuffle { tests := testsOf items, again := again }
  else .rounds (.start (testsOf items) again)

def run (arguments : List String) : Act Int := do
  let items ← Cli.read grammar arguments
  if ((← bench).executables.lookup "ts").isNone then
    complain "No 'ts' command found; please install 'moreutils' package\n"
    return 1
  return (← runAll (.ofItems items) (limit (← bench) (testsOf items)) {} (.ofItems items)).status

end SetTop.Batch
