import SetTop.Config.Settings

/-!
The settings that hold unless a configuration file says otherwise.
-/

namespace SetTop.Config

def builtinLines : List String := [
  "[global]",
  "source_pipeline=videotestsrc is-live=true",
  "sink_pipeline=xvimagesink sync=false",
  "transformation_pipeline = identity",
  "control=error",
  "verbose=0",
  "power_outlet=none",
  "v4l2_ctls=",
  "",
  "restart_source = False",
  "",
  "geometriccorrection_params =",
  "contraststretch_params =",
  "",
  "[camera]",
  "video_format = mp4",
  "",
  "[match]",
  "match_method=sqdiff-normed",
  "match_threshold=0.80",
  "confirm_method=absdiff",
  "erode_passes=1",
  "confirm_threshold=0.16",
  "",
  "pyramid_levels = 3",
  "",
  "[press]",
  "interpress_delay_secs = 0",
  "",
  "[press_until_match]",
  "interval_secs = 3",
  "max_presses = 10",
  "",
  "[motion]",
  "noise_threshold=0.84",
  "consecutive_frames=10/20",
  "",
  "[is_screen_black]",
  "threshold = 10",
  "",
  "[run]",
  "save_video =",
  "",
  "[record]",
  "output_file=test.py",
  "control_recorder=file:///dev/stdin"]

def builtinText : String := String.join (builtinLines.map (· ++ "\n"))

end SetTop.Config
