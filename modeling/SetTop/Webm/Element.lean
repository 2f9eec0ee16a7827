/-!
Elements of a video file.

A file is a sequence of elements, each with a number that says what it is. The tables give
the names of elements and how their data are to be read, for each place where they can stand.
-/

namespace SetTop.Webm

inductive Kind
  | container
  | binary
  | unsigned
  | text
  | real
  | date
deriving DecidableEq

structure Spec where
  name : String
  kind : Kind
deriving DecidableEq

abbrev Table := List (Nat × Spec)

def segment : Nat := 0x18538067
def seekHead : Nat := 0x114d9b74
def segmentInfo : Nat := 0x1549a966
def tracks : Nat := 0x1654ae6b
def cues : Nat := 0x1c53bb6b
def cluster : Nat := 0x1f43b675
def trackNumber : Nat := 0xd7
def trackType : Nat := 0x83
def codecPrivate : Nat := 0x63a2
def padding : Nat := 0xec

def headerTable : Table :=
  [(0x1a45dfa3, ⟨"EBML", .container⟩), (0x4286, ⟨"EBMLVersion", .unsigned⟩),
   (0x42f7, ⟨"EBMLReadVersion", .unsigned⟩), (0x42f2, ⟨"EBMLMaxIDLength", .unsigned⟩),
   (0x42f3, ⟨"EBMLMaxSizeLength", .unsigned⟩), (0x4282, ⟨"DocType", .text⟩),
   (0x4287, ⟨"DocTypeVersion", .unsigned⟩), (0x4285, ⟨"DocTypeReadVersion", .unsigned⟩),
   (0xec, ⟨"Void", .binary⟩)]

def segmentTable : Table :=
  [(0xbf, ⟨"Crc-32", .binary⟩), (0xec, ⟨"Void", .binary⟩), (0x18538067, ⟨"Segment", .container⟩),
   (0x114d9b74, ⟨"SeekHead", .container⟩), (0x4dbb, ⟨"Seek", .container⟩),
   (0x53ab, ⟨"SeekID", .binary⟩), (0x53ac, ⟨"SeekPosition", .unsigned⟩),
   (0x1549a966, ⟨"SegmentInfo", .container⟩), (0x1f43b675, ⟨"Cluster", .container⟩),
   (0x1654ae6b, ⟨"Tracks", .container⟩), (0xe0, ⟨"Video", .container⟩),
   (0xe1, ⟨"Audio", .container⟩), (0x1c53bb6b, ⟨"Cues", .container⟩),
   (0x1941a469, ⟨"Attachments", .container⟩), (0x1043a770, ⟨"Chapters", .container⟩),
   (0x1254c367, ⟨"Tags", .container⟩)]

def seekTable : Table :=
  [(0x114d9b74, ⟨"SeekHead", .container⟩), (0x4dbb, ⟨"Seek", .container⟩),
   (0x53ab, ⟨"SeekId", .binary⟩), (0x53ac, ⟨"SeekPosition", .unsigned⟩), (0xec, ⟨"Void", .binary⟩)]

def infoTable : Table :=
  [(0x1549a966, ⟨"SegmentInfo", .container⟩), (0x73a4, ⟨"SegmentUID", .binary⟩),
   (0x7384, ⟨"SegmentFilename", .text⟩), (0x3cb923, ⟨"PrevUID", .binary⟩),
   (0x3c83ab, ⟨"PrevFilename", .text⟩), (0x3eb923, ⟨"NextUID", .binary⟩),
   (0x3e83bb, ⟨"NextFilename", .text⟩), (0x4444, ⟨"SegmentFamily", .binary⟩),
   (0x6924, ⟨"ChapterTranslate", .container⟩), (0x69fc, ⟨"ChapterTranslateEditionUID", .unsigned⟩),
   (0x69bf, ⟨"ChapterTranslateCodec", .unsigned⟩), (0x69a5, ⟨"ChapterTranslateID", .binary⟩),
   (0x2ad7b1, ⟨"TimecodeScale", .unsigned⟩), (0x4489, ⟨"Duration", .real⟩),
   (0x4461, ⟨"DateUTC", .date⟩), (0x7ba9, ⟨"Title", .text⟩), (0x4d80, ⟨"MuxingApp", .text⟩),
   (0x5741, ⟨"WritingApp", .text⟩)]

def trackTable : Table :=
  [(0x1654ae6b, ⟨"Track", .container⟩), (0xae, ⟨"Track Entry", .container⟩),
   (0xd7, ⟨"Track Number", .unsigned⟩), (0x73c5, ⟨"Track Uid", .unsigned⟩),
   (0x83, ⟨"Track Type", .unsigned⟩), (0xb9, ⟨"Flag Enabled", .unsigned⟩),
   (0x88, ⟨"Flag Default", .unsigned⟩), (0x55aa, ⟨"Flag Forced", .unsigned⟩),
   (0x9c, ⟨"Flag Lacing", .unsigned⟩), (0x23e383, ⟨"Default Duration", .unsigned⟩),
   (0x536e, ⟨"Name", .text⟩), (0x22b59c, ⟨"Language", .text⟩), (0x86, ⟨"Codec Id", .text⟩),
   (0x63a2, ⟨"Codec Private", .binary⟩), (0x258688, ⟨"Codec Name", .text⟩),
   (0xe0, ⟨"Video", .container⟩), (0x9a, ⟨"Flag Interlaced", .unsigned⟩),
   (0xb0, ⟨"Pixel Width", .unsigned⟩), (0xba, ⟨"Pixel Height", .unsigned⟩),
   (0x54aa, ⟨"Pixel Crop Bottom", .unsigned⟩), (0x54bb, ⟨"Pixel Crop Top", .unsigned⟩),
   (0x54cc, ⟨"Pixel Crop Left", .unsigned⟩), (0x54dd, ⟨"Pixel Crop Right", .unsigned⟩),
   (0x54b0, ⟨"Display Width", .unsigned⟩), (0x54ba, ⟨"Display Height", .unsigned⟩),
   (0x54b2, ⟨"Display Unit", .unsigned⟩), (0x53b8, ⟨"Stereo Mode", .unsigned⟩),
   (0x54b3, ⟨"Aspect Ratio Type", .unsigned⟩), (0x2383e3, ⟨"Frame Rate", .real⟩),
   (0xe1, ⟨"Audio", .container⟩), (0xb5, ⟨"Sampling Frequency", .real⟩),
   (0x78b5, ⟨"Output sampling Frequency", .real⟩), (0x9f, ⟨"Channels", .unsigned⟩),
   (0x6264, ⟨"Bit Depth", .unsigned⟩), (0xec, ⟨"Void", .binary⟩)]

def cueTable : Table :=
  [(0x1c53bb6b, ⟨"Cues", .container⟩), (0xbb, ⟨"Cue Point", .container⟩),
   (0xb3, ⟨"Cue Time", .unsigned⟩), (0xb7, ⟨"Cue Track Positions", .container⟩),
   (0xf7, ⟨"Cue Track", .unsigned⟩), (0xf1, ⟨"Cue Cluster Position", .unsigned⟩),
   (0x5378, ⟨"Cue Block Number", .unsigned⟩)]

def clusterTable : Table :=
  [(0x1f43b675, ⟨"Cluster", .container⟩), (0xe7, ⟨"TimeCode", .unsigned⟩),
   (0x5854, ⟨"SilentTracks", .container⟩), (0x58d7, ⟨"SilentTrackNumber", .unsigned⟩),
   (0xa7, ⟨"Position", .unsigned⟩), (0xab, ⟨"PrevSize", .unsigned⟩),
   (0xa0, ⟨"BlockGroup", .container⟩), (0xa1, ⟨"Block", .binary⟩),
   (0x75a1, ⟨"BlockAdditions", .container⟩), (0xa6, ⟨"BlockMore", .container⟩),
   (0xee, ⟨"BlockAddId", .unsigned⟩), (0xa5, ⟨"BlockAdditional", .binary⟩),
   (0x9b, ⟨"BlockDuration", .unsigned⟩), (0xfa, ⟨"ReferencePriority", .unsigned⟩),
   (0xfb, ⟨"ReferenceBlock", .unsigned⟩), (0xa4, ⟨"CodecState", .binary⟩),
   (0x8e, ⟨"Slices", .container⟩), (0xe8, ⟨"TimeSlice", .container⟩),
   (0xcc, ⟨"LaceNumber", .unsigned⟩), (0xa3, ⟨"SimpleBlock", .binary⟩)]

def tableFor (part : Nat) : Table :=
  if part = seekHead then seekTable
  else if part = segmentInfo then infoTable
  else if part = tracks then trackTable
  else if part = cues then cueTable
  else if part = cluster then clusterTable
  else []

def partName? (n : Nat) (clusterName : String) : Option String :=
  if n = segmentInfo then some "SegmentInfo"
  else if n = tracks then some "Tracks"
  else if n = cues then some "Cues"
  else if n = seekHead then some "SeekHead"
  else if n = cluster then some clusterName
  else none

end SetTop.Webm
