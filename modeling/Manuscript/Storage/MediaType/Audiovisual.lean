/-!
# Sounds, pictures and films

The subtypes of `audio`, `image`, `model` and `video` with the extensions of their files, in lower
case.
-/

namespace Manuscript

namespace MediaType

/-- Subtypes of `audio`. -/
def audio : List (String × List String) :=
  [("aac", ["aac", "adts"]), ("ac3", ["ac3"]), ("aiff", ["aif", "aifc", "aiff", "cdda"]),
    ("annodex", ["axa"]), ("audible", ["aa"]), ("basic", ["au", "snd"]), ("flac", ["flac"]),
    ("m4a", ["m4a"]), ("m4b", ["m4b"]), ("m4p", ["m4p"]), ("mid", ["mid", "midi", "rmi"]),
    ("midi", ["kar"]), ("mp4", ["mp4a"]), ("mpeg", ["m2a", "m3a", "mp2", "mp2a", "mp3", "mpga"]),
    ("ogg", ["oga", "ogg", "opus", "spx"]), ("s3m", ["s3m"]), ("scpls", ["pls"]), ("silk", ["sil"]),
    ("vnd.audible.aax", ["aax"]), ("vnd.dece.audio", ["uva", "uvva"]),
    ("vnd.digital-winds", ["eol"]), ("vnd.dlna.adts", ["adt"]), ("vnd.dra", ["dra"]),
    ("vnd.dts", ["dts"]), ("vnd.dts.hd", ["dtshd"]), ("vnd.lucent.voice", ["lvp"]),
    ("vnd.ms-playready.media.pya", ["pya"]), ("vnd.nuera.ecelp4800", ["ecelp4800"]),
    ("vnd.nuera.ecelp7470", ["ecelp7470"]), ("vnd.nuera.ecelp9600", ["ecelp9600"]),
    ("vnd.rip", ["rip"]), ("wav", ["wav", "wave"]), ("webm", ["weba"]), ("x-caf", ["caf"]),
    ("x-gsm", ["gsm"]), ("x-m4r", ["m4r"]), ("x-matroska", ["mka"]), ("x-mpegurl", ["m3u", "m3u8"]),
    ("x-ms-wax", ["wax"]), ("x-ms-wma", ["wma"]), ("x-pn-realaudio", ["ra", "ram"]),
    ("x-pn-realaudio-plugin", ["rpm"]), ("x-sd2", ["sd2"]), ("x-smd", ["smd", "smx", "smz"]),
    ("xm", ["xm"])]

/-- Subtypes of `image`. -/
def image : List (String × List String) :=
  [("apng", ["apng"]), ("avif", ["avif"]), ("avif-sequence", ["avifs"]), ("bmp", ["bmp", "dib"]),
    ("cgm", ["cgm"]), ("cis-cod", ["cod"]), ("g3fax", ["g3"]), ("gif", ["gif"]), ("heic", ["heic"]),
    ("heic-sequence", ["heics"]), ("heif", ["heif"]), ("heif-sequence", ["heifs"]),
    ("ief", ["ief"]), ("jp2", ["jp2", "jpg2"]), ("jpeg", ["jfif", "jpe", "jpeg", "jpg"]),
    ("jpm", ["jpm"]), ("jpx", ["jpf", "jpx"]), ("jxl", ["jxl"]), ("ktx", ["ktx"]),
    ("pict", ["pct", "pic", "pict"]), ("png", ["png", "pnz"]), ("prs.btif", ["btif"]),
    ("sgi", ["sgi"]), ("svg+xml", ["svg", "svgz"]), ("tiff", ["tif", "tiff"]),
    ("vnd.dece.graphic", ["uvg", "uvi", "uvvg", "uvvi"]), ("vnd.djvu", ["djv", "djvu"]),
    ("vnd.fastbidsheet", ["fbs"]), ("vnd.fpx", ["fpx"]), ("vnd.fst", ["fst"]),
    ("vnd.fujixerox.edmics-mmr", ["mmr"]), ("vnd.fujixerox.edmics-rlc", ["rlc"]),
    ("vnd.ms-modi", ["mdi"]), ("vnd.ms-photo", ["wdp"]), ("vnd.net-fpx", ["npx"]),
    ("vnd.radiance", ["hdr"]), ("vnd.rn-realflash", ["rf"]), ("vnd.wap.wbmp", ["wbmp"]),
    ("vnd.xiff", ["xif"]), ("webp", ["webp"]), ("x-3ds", ["3ds"]), ("x-adobe-dng", ["dng"]),
    ("x-canon-cr2", ["cr2"]), ("x-canon-cr3", ["cr3"]), ("x-canon-crw", ["crw"]),
    ("x-cmu-raster", ["ras"]), ("x-cmx", ["cmx"]),
    ("x-freehand", ["fh", "fh4", "fh5", "fh7", "fhc"]), ("x-fuji-raf", ["raf"]),
    ("x-icon", ["ico"]), ("x-jg", ["art"]), ("x-jng", ["jng"]), ("x-kodak-k25", ["k25"]),
    ("x-kodak-kdc", ["kdc"]), ("x-macpaint", ["mac", "pnt", "pntg"]), ("x-minolta-mrw", ["mrw"]),
    ("x-mrsid-image", ["sid"]), ("x-nikon-nef", ["nef"]), ("x-nikon-nrw", ["nrw"]),
    ("x-olympus-orf", ["orf"]), ("x-panasonic-rw", ["raw"]), ("x-panasonic-rw2", ["rw2", "rwl"]),
    ("x-pentax-pef", ["pef"]), ("x-portable-anymap", ["pnm"]), ("x-portable-bitmap", ["pbm"]),
    ("x-portable-graymap", ["pgm"]), ("x-portable-pixmap", ["ppm"]),
    ("x-quicktime", ["qti", "qtif"]), ("x-rgb", ["rgb"]), ("x-sigma-x3f", ["x3f"]),
    ("x-sony-arw", ["arw"]), ("x-sony-sr2", ["sr2"]), ("x-tga", ["tga"]), ("x-xbitmap", ["xbm"]),
    ("x-xpixmap", ["xpm"]), ("x-xwindowdump", ["xwd"])]

/-- Subtypes of `model`. -/
def model : List (String × List String) :=
  [("gltf+json", ["gltf"]), ("gltf-binary", ["glb"]), ("iges", ["iges", "igs"]),
    ("mesh", ["mesh", "msh", "silo"]), ("vnd.collada+xml", ["dae"]), ("vnd.gdl", ["gdl"]),
    ("vnd.gtw", ["gtw"]), ("vnd.vtu", ["vtu"]), ("vrml", ["vrml"]),
    ("x3d+binary", ["x3db", "x3dbz"]), ("x3d+vrml", ["x3dv", "x3dvz"]),
    ("x3d+xml", ["x3d", "x3dz"])]

/-- Subtypes of `video`. -/
def video : List (String × List String) :=
  [("3gpp", ["3gp", "3gpp"]), ("3gpp2", ["3g2", "3gp2"]), ("annodex", ["axv"]), ("divx", ["divx"]),
    ("h261", ["h261"]), ("h263", ["h263"]), ("h264", ["h264"]), ("jpeg", ["jpgv"]),
    ("jpm", ["jpgm"]), ("mj2", ["mj2", "mjp2"]), ("mp4", ["mp4", "mp4v", "mpg4"]),
    ("mpeg", ["m1v", "m2v", "mod", "mp2v", "mpa", "mpe", "mpeg", "mpg", "mpv2", "vbk"]),
    ("ogg", ["ogv"]), ("quicktime", ["mov", "mqv", "qt"]), ("vnd.dece.hd", ["uvh", "uvvh"]),
    ("vnd.dece.mobile", ["uvm", "uvvm"]), ("vnd.dece.pd", ["uvp", "uvvp"]),
    ("vnd.dece.sd", ["uvs", "uvvs"]), ("vnd.dece.video", ["uvv", "uvvv"]),
    ("vnd.dlna.mpeg-tts", ["m2t", "m2ts", "mts", "ts", "tts"]), ("vnd.dvb.file", ["dvb"]),
    ("vnd.fvt", ["fvt"]), ("vnd.mpegurl", ["m4u", "mxu"]), ("vnd.ms-playready.media.pyv", ["pyv"]),
    ("vnd.uvvu.mp4", ["uvu", "uvvu"]), ("vnd.vivo", ["viv"]), ("webm", ["webm"]),
    ("x-dv", ["dif", "dv"]), ("x-f4v", ["f4v"]), ("x-fli", ["fli"]), ("x-flv", ["flv"]),
    ("x-ivf", ["ivf"]), ("x-la-asf", ["lsf", "lsx"]), ("x-m4v", ["m4v"]),
    ("x-matroska", ["mk3d", "mks", "mkv"]), ("x-mng", ["mng"]),
    ("x-ms-asf", ["asf", "asr", "asx", "nsc"]), ("x-ms-vob", ["vob"]), ("x-ms-wm", ["wm"]),
    ("x-ms-wmp", ["wmp"]), ("x-ms-wmv", ["wmv"]), ("x-ms-wmx", ["wmx"]), ("x-ms-wvx", ["wvx"]),
    ("x-msvideo", ["avi"]), ("x-sgi-movie", ["movie"]), ("x-smv", ["smv"])]

end MediaType

end Manuscript
