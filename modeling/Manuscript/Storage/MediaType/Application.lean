/-!
# Files of applications

The subtypes of `application` with the extensions of their files, in lower case. Vendors have
a branch of their own, and subtypes that nobody registered start with `x-`.
-/

namespace Manuscript

namespace MediaType

/-- Subtypes that are neither a vendor's nor unregistered. -/
def standardApplications : List (String × List String) :=
  [("PowerShell", ["psc1"]), ("acad", ["dwg"]), ("andrew-inset", ["ez"]), ("annodex", ["anx"]),
    ("applixware", ["aw"]), ("atom+xml", ["atom"]), ("atomcat+xml", ["atomcat"]),
    ("atomsvc+xml", ["atomsvc"]), ("bdoc", ["bdoc"]), ("ccxml+xml", ["ccxml"]),
    ("cdmi-capability", ["cdmia"]), ("cdmi-container", ["cdmic"]), ("cdmi-domain", ["cdmid"]),
    ("cdmi-object", ["cdmio"]), ("cdmi-queue", ["cdmiq"]), ("cu-seeme", ["cu"]),
    ("dash+xml", ["mpd"]), ("davmount+xml", ["davmount"]), ("directx", ["x"]),
    ("docbook+xml", ["dbk"]), ("dssc+der", ["dssc"]), ("dssc+xml", ["xdssc"]),
    ("emma+xml", ["emma"]), ("envoy", ["evy"]), ("epub+zip", ["epub"]), ("etl", ["etl"]),
    ("exi", ["exi"]), ("font-sfnt", ["otf"]), ("font-tdpfr", ["pfr"]), ("font-woff", ["woff"]),
    ("fractals", ["fif"]), ("fsharp-script", ["fsscript", "fsx"]), ("futuresplash", ["spl"]),
    ("geo+json", ["geojson"]), ("gml+xml", ["gml"]), ("gpx+xml", ["gpx"]), ("gxf", ["gxf"]),
    ("gzip", ["gz"]), ("hjson", ["hjson"]), ("hta", ["hta"]), ("hyperstudio", ["stk"]),
    ("inkml+xml", ["ink", "inkml"]), ("internet-property-stream", ["acx"]), ("ipfix", ["ipfix"]),
    ("java-archive", ["ear", "jar", "war"]), ("java-serialized-object", ["ser"]),
    ("javascript", ["mjs"]), ("json", ["json"]), ("json5", ["json5"]), ("jsonml+json", ["jsonml"]),
    ("ld+json", ["jsonld"]), ("liquidmotion", ["jck", "jcz"]), ("lost+xml", ["lostxml"]),
    ("mac-binhex40", ["hqx"]), ("mac-compactpro", ["cpt"]), ("mads+xml", ["mads"]),
    ("manifest+json", ["webmanifest"]), ("marc", ["mrc"]), ("marcxml+xml", ["mrcx"]),
    ("mathematica", ["ma", "mb", "nb"]), ("mathml+xml", ["mathml"]), ("mbox", ["mbox"]),
    ("mediaservercontrol+xml", ["mscml"]), ("metalink+xml", ["metalink"]),
    ("metalink4+xml", ["meta4"]), ("mets+xml", ["mets"]), ("mods+xml", ["mods"]),
    ("mp21", ["m21", "mp21"]), ("mp4", ["mp4s"]), ("mpeg", ["amc"]), ("ms-vsi", ["vsi"]),
    ("msaccess", ["accdb", "accde", "accdt", "ade", "adp", "mda", "mde"]),
    ("msaccess.addin", ["accda"]), ("msaccess.cab", ["accdc"]), ("msaccess.ftemplate", ["accft"]),
    ("msaccess.runtime", ["accdr"]), ("msaccess.webapplication", ["accdw"]),
    ("msword", ["doc", "dot", "wbk", "wiz"]), ("mxf", ["mxf"]), ("n-quads", ["nq"]),
    ("n-triples", ["nt"]), ("oda", ["oda"]), ("oebps-package+xml", ["opf"]), ("ogg", ["ogx"]),
    ("olescript", ["axs"]), ("omdoc+xml", ["omdoc"]),
    ("onenote", ["one", "onea", "onepkg", "onetmp", "onetoc", "onetoc2"]),
    ("opensearchdescription+xml", ["osdx"]), ("oxps", ["oxps"]), ("patch-ops-error+xml", ["xer"]),
    ("pdf", ["pdf"]), ("pgp-encrypted", ["pgp"]), ("pgp-signature", ["asc", "sig"]),
    ("pics-rules", ["prf"]), ("pkcs10", ["p10"]), ("pkcs7-mime", ["p7c", "p7m"]),
    ("pkcs7-signature", ["p7s"]), ("pkcs8", ["p8"]), ("pkix-attr-cert", ["ac"]),
    ("pkix-crl", ["crl"]), ("pkix-pkipath", ["pkipath"]), ("pkixcmp", ["pki"]),
    ("postscript", ["ai", "eps", "ps"]), ("prs.cww", ["cww"]), ("pskc+xml", ["pskcxml"]),
    ("raml+yaml", ["raml"]), ("rat-file", ["rat"]), ("rdf+xml", ["rdf"]), ("reginfo+xml", ["rif"]),
    ("relax-ng-compact-syntax", ["rnc"]), ("resource-lists+xml", ["rl"]),
    ("resource-lists-diff+xml", ["rld"]), ("rpki-ghostbusters", ["gbr"]),
    ("rpki-manifest", ["mft"]), ("rpki-roa", ["roa"]), ("rsd+xml", ["rsd"]), ("rss+xml", ["rss"]),
    ("rtf", ["rtf"]), ("sbml+xml", ["sbml"]), ("scvp-cv-request", ["scq"]),
    ("scvp-cv-response", ["scs"]), ("scvp-vp-request", ["spq"]), ("scvp-vp-response", ["spp"]),
    ("sdp", ["sdp"]), ("set-payment-initiation", ["setpay"]),
    ("set-registration-initiation", ["setreg"]), ("shf+xml", ["shf"]), ("smil+xml", ["smil"]),
    ("sparql-query", ["rq"]), ("sparql-results+xml", ["srx"]), ("srgs", ["gram"]),
    ("srgs+xml", ["grxml"]), ("sru+xml", ["sru"]), ("ssdl+xml", ["ssdl"]), ("ssml+xml", ["ssml"]),
    ("step", ["step", "stp"]), ("streamingmedia", ["ssm"]), ("tei+xml", ["tei", "teicorpus"]),
    ("thraud+xml", ["tfi"]), ("timestamped-data", ["tsd"]), ("trig", ["trig"]),
    ("voicexml+xml", ["vxml"]), ("vsix", ["vsix"]), ("wasm", ["wasm"]), ("widget", ["wgt"]),
    ("windows-library+xml", ["library-ms"]),
    ("windows-search-connector+xml", ["searchconnector-ms"]), ("winhlp", ["hlp"]),
    ("wlmoviemaker", ["wlmp"]), ("wspolicy+xml", ["wspolicy"]), ("xaml+xml", ["xaml"]),
    ("xcap-diff+xml", ["xdf"]), ("xenc+xml", ["xenc"]), ("xhtml+xml", ["xht", "xhtml"]),
    ("xml",
      ["asa", "asax", "ascx", "ashx", "asmx", "aspx", "config", "coverage", "datasource", "dgml",
       "filters", "generictest", "hxa", "hxc", "hxe", "hxf", "hxk", "hxv", "loadtest", "master",
       "mtx", "orderedtest", "psess", "rdlc", "resx", "rng", "ruleset", "settings", "sitemap",
       "skin", "snippet", "svc", "testrunconfig", "testsettings", "trx", "vcproj", "vcxproj",
       "vscontent", "vsmdi", "webtest", "wiq", "xmta", "xsc", "xss"]),
    ("xop+xml", ["xop"]), ("xproc+xml", ["xpl"]), ("xspf+xml", ["xspf"]),
    ("xv+xml", ["mxml", "xhvml", "xvm", "xvml"]), ("yang", ["yang"]), ("yin+xml", ["yin"]),
    ("zip", ["zip"])]

/-- Subtypes that vendors named. -/
def vendorApplications : List (String × List String) :=
  [("vnd.3gpp.pic-bw-large", ["plb"]), ("vnd.3gpp.pic-bw-small", ["psb"]),
    ("vnd.3gpp.pic-bw-var", ["pvb"]), ("vnd.3gpp2.tcap", ["tcap"]),
    ("vnd.3m.post-it-notes", ["pwn"]), ("vnd.accpac.simply.aso", ["aso"]),
    ("vnd.accpac.simply.imp", ["imp"]), ("vnd.acucobol", ["acu"]),
    ("vnd.acucorp", ["acutc", "atc"]), ("vnd.adobe.air-application-installer-package+zip", ["air"]),
    ("vnd.adobe.formscentral.fcdt", ["fcdt"]), ("vnd.adobe.fxp", ["fxp", "fxpl"]),
    ("vnd.adobe.xdp+xml", ["xdp"]), ("vnd.adobe.xfdf", ["xfdf"]), ("vnd.ahead.space", ["ahead"]),
    ("vnd.airzip.filesecure.azf", ["azf"]), ("vnd.airzip.filesecure.azs", ["azs"]),
    ("vnd.amazon.ebook", ["azw"]), ("vnd.americandynamics.acc", ["acc"]),
    ("vnd.amiga.ami", ["ami"]), ("vnd.android.package-archive", ["apk"]),
    ("vnd.anser-web-certificate-issue-initiation", ["cii"]),
    ("vnd.anser-web-funds-transfer-initiation", ["fti"]), ("vnd.antix.game-component", ["atx"]),
    ("vnd.apache.parquet", ["parquet"]), ("vnd.apple.installer+xml", ["mpkg"]),
    ("vnd.apple.pkpass", ["pkpass"]), ("vnd.aristanetworks.swi", ["swi"]),
    ("vnd.astraea-software.iota", ["iota"]), ("vnd.audiograph", ["aep"]),
    ("vnd.blueice.multipass", ["mpm"]), ("vnd.bmi", ["bmi"]), ("vnd.businessobjects", ["rep"]),
    ("vnd.chemdraw+xml", ["cdxml"]), ("vnd.chipnuts.karaoke-mmd", ["mmd"]),
    ("vnd.cinderella", ["cdy"]), ("vnd.citationstyles.style+xml", ["csl"]),
    ("vnd.claymore", ["cla"]), ("vnd.cloanto.rp9", ["rp9"]),
    ("vnd.clonk.c4group", ["c4d", "c4f", "c4g", "c4p", "c4u"]),
    ("vnd.cluetrust.cartomobile-config", ["c11amc"]),
    ("vnd.cluetrust.cartomobile-config-pkg", ["c11amz"]), ("vnd.commonspace", ["csp"]),
    ("vnd.contact.cmsg", ["cdbcmsg"]), ("vnd.cosmocaller", ["cmc"]),
    ("vnd.crick.clicker", ["clkx"]), ("vnd.crick.clicker.keyboard", ["clkk"]),
    ("vnd.crick.clicker.palette", ["clkp"]), ("vnd.crick.clicker.template", ["clkt"]),
    ("vnd.crick.clicker.wordbank", ["clkw"]), ("vnd.criticaltools.wbs+xml", ["wbs"]),
    ("vnd.cups-ppd", ["ppd"]), ("vnd.curl.car", ["car"]), ("vnd.curl.pcurl", ["pcurl"]),
    ("vnd.dart", ["dart"]), ("vnd.data-vision.rdz", ["rdz"]),
    ("vnd.dece.data", ["uvd", "uvf", "uvvd", "uvvf"]), ("vnd.dece.ttml+xml", ["uvt", "uvvt"]),
    ("vnd.dece.unspecified", ["uvvx", "uvx"]), ("vnd.dece.zip", ["uvvz", "uvz"]),
    ("vnd.denovo.fcselayout-link", ["fe_launch"]), ("vnd.dna", ["dna"]), ("vnd.dolby.mlp", ["mlp"]),
    ("vnd.dpgraph", ["dpg"]), ("vnd.dreamfactory", ["dfac"]), ("vnd.ds-keypoint", ["kpxx"]),
    ("vnd.dvb.ait", ["ait"]), ("vnd.dynageo", ["geo"]), ("vnd.ecowin.chart", ["mag"]),
    ("vnd.enliven", ["nml"]), ("vnd.epson.esf", ["esf"]), ("vnd.epson.msf", ["msf"]),
    ("vnd.epson.quickanime", ["qam"]), ("vnd.epson.salt", ["slt"]), ("vnd.epson.ssf", ["ssf"]),
    ("vnd.eszigno3+xml", ["es3", "et3"]), ("vnd.ezpix-album", ["ez2"]),
    ("vnd.ezpix-package", ["ez3"]), ("vnd.fdf", ["fdf"]), ("vnd.fdsn.mseed", ["mseed"]),
    ("vnd.fdsn.seed", ["dataless", "seed"]), ("vnd.flographit", ["gph"]),
    ("vnd.fluxtime.clip", ["ftc"]), ("vnd.framemaker", ["book", "fm", "frame", "maker"]),
    ("vnd.frogans.fnc", ["fnc"]), ("vnd.frogans.ltf", ["ltf"]), ("vnd.fsc.weblaunch", ["fsc"]),
    ("vnd.fujitsu.oasys", ["oas"]), ("vnd.fujitsu.oasys2", ["oa2"]),
    ("vnd.fujitsu.oasys3", ["oa3"]), ("vnd.fujitsu.oasysgp", ["fg5"]),
    ("vnd.fujitsu.oasysprs", ["bh2"]), ("vnd.fujixerox.ddd", ["ddd"]),
    ("vnd.fujixerox.docuworks", ["xdw"]), ("vnd.fujixerox.docuworks.binder", ["xbd"]),
    ("vnd.fuzzysheet", ["fzs"]), ("vnd.genomatix.tuxedo", ["txd"]), ("vnd.geogebra.file", ["ggb"]),
    ("vnd.geogebra.tool", ["ggt"]), ("vnd.geometry-explorer", ["gex", "gre"]),
    ("vnd.geonext", ["gxt"]), ("vnd.geoplan", ["g2w"]), ("vnd.geospace", ["g3w"]),
    ("vnd.gmx", ["gmx"]), ("vnd.google-apps.document", ["gdoc"]),
    ("vnd.google-apps.presentation", ["gslides"]), ("vnd.google-apps.spreadsheet", ["gsheet"]),
    ("vnd.google-earth.kml+xml", ["kml"]), ("vnd.google-earth.kmz", ["kmz"]),
    ("vnd.grafeq", ["gqf", "gqs"]), ("vnd.groove-account", ["gac"]), ("vnd.groove-help", ["ghf"]),
    ("vnd.groove-identity-message", ["gim"]), ("vnd.groove-injector", ["grv"]),
    ("vnd.groove-tool-message", ["gtm"]), ("vnd.groove-tool-template", ["tpl"]),
    ("vnd.groove-vcard", ["vcg"]), ("vnd.hal+xml", ["hal"]),
    ("vnd.handheld-entertainment+xml", ["zmm"]), ("vnd.hbci", ["hbci"]),
    ("vnd.hhe.lesson-player", ["les"]), ("vnd.hp-hpgl", ["hpgl"]), ("vnd.hp-hpid", ["hpid"]),
    ("vnd.hp-hps", ["hps"]), ("vnd.hp-jlyt", ["jlt"]), ("vnd.hp-pcl", ["pcl"]),
    ("vnd.hp-pclxl", ["pclxl"]), ("vnd.hydrostatix.sof-data", ["sfd-hdstx"]),
    ("vnd.ibm.minipay", ["mpy"]), ("vnd.ibm.modcap", ["afp", "list3820", "listafp"]),
    ("vnd.ibm.rights-management", ["irm"]), ("vnd.ibm.secure-container", ["sc"]),
    ("vnd.iccprofile", ["icc", "icm"]), ("vnd.igloader", ["igl"]), ("vnd.immervision-ivp", ["ivp"]),
    ("vnd.immervision-ivu", ["ivu"]), ("vnd.insors.igm", ["igm"]),
    ("vnd.intercon.formnet", ["xpw", "xpx"]), ("vnd.intergeo", ["i2g"]), ("vnd.intu.qbo", ["qbo"]),
    ("vnd.intu.qfx", ["qfx"]), ("vnd.ipunplugged.rcprofile", ["rcprofile"]),
    ("vnd.irepository.package+xml", ["irp"]), ("vnd.is-xpr", ["xpr"]), ("vnd.isac.fcs", ["fcs"]),
    ("vnd.jam", ["jam"]), ("vnd.jcp.javame.midlet-rms", ["rms"]), ("vnd.jisp", ["jisp"]),
    ("vnd.joost.joda-archive", ["joda"]), ("vnd.kahootz", ["ktr", "ktz"]),
    ("vnd.kde.karbon", ["karbon"]), ("vnd.kde.kchart", ["chrt"]), ("vnd.kde.kformula", ["kfo"]),
    ("vnd.kde.kivio", ["flw"]), ("vnd.kde.kontour", ["kon"]),
    ("vnd.kde.kpresenter", ["kpr", "kpt"]), ("vnd.kde.kspread", ["ksp"]),
    ("vnd.kde.kword", ["kwd", "kwt"]), ("vnd.kenameaapp", ["htke"]), ("vnd.kidspiration", ["kia"]),
    ("vnd.kinar", ["kne", "knp"]), ("vnd.koan", ["skd", "skm", "skt"]),
    ("vnd.kodak-descriptor", ["sse"]), ("vnd.las.las+xml", ["lasxml"]),
    ("vnd.llamagraphics.life-balance.desktop", ["lbd"]),
    ("vnd.llamagraphics.life-balance.exchange+xml", ["lbe"]), ("vnd.lotus-1-2-3", ["123"]),
    ("vnd.lotus-approach", ["apr"]), ("vnd.lotus-freelance", ["pre"]), ("vnd.lotus-notes", ["nsf"]),
    ("vnd.lotus-organizer", ["org"]), ("vnd.lotus-screencam", ["scm"]),
    ("vnd.lotus-wordpro", ["lwp"]), ("vnd.macports.portpkg", ["portpkg"]), ("vnd.mcd", ["mcd"]),
    ("vnd.medcalcdata", ["mc1"]), ("vnd.mediastation.cdkey", ["cdkey"]), ("vnd.mfer", ["mwf"]),
    ("vnd.mfmp", ["mfm"]), ("vnd.micrografx.flo", ["flo"]), ("vnd.micrografx.igx", ["igx"]),
    ("vnd.mif", ["mif"]), ("vnd.mobius.daf", ["daf"]), ("vnd.mobius.dis", ["dis"]),
    ("vnd.mobius.mbk", ["mbk"]), ("vnd.mobius.mqy", ["mqy"]), ("vnd.mobius.msl", ["msl"]),
    ("vnd.mobius.plc", ["plc"]), ("vnd.mobius.txf", ["txf"]), ("vnd.mophun.application", ["mpn"]),
    ("vnd.mophun.certificate", ["mpc"]), ("vnd.mozilla.xul+xml", ["xul"]),
    ("vnd.ms-artgalry", ["cil"]),
    ("vnd.ms-excel", ["slk", "xla", "xlc", "xld", "xlk", "xll", "xlm", "xls", "xlt", "xlw"]),
    ("vnd.ms-excel.addin.macroEnabled.12", ["xlam"]),
    ("vnd.ms-excel.sheet.binary.macroEnabled.12", ["xlsb"]),
    ("vnd.ms-excel.sheet.macroEnabled.12", ["xlsm"]),
    ("vnd.ms-excel.template.macroEnabled.12", ["xltm"]), ("vnd.ms-fontobject", ["eot"]),
    ("vnd.ms-htmlhelp", ["chm"]), ("vnd.ms-ims", ["ims"]), ("vnd.ms-lrm", ["lrm"]),
    ("vnd.ms-mediapackage", ["mpf"]), ("vnd.ms-office.calx", ["calx"]),
    ("vnd.ms-officetheme", ["thmx"]), ("vnd.ms-outlook", ["msg", "pst"]),
    ("vnd.ms-pki.certstore", ["sst"]), ("vnd.ms-pki.pko", ["pko"]), ("vnd.ms-pki.seccat", ["cat"]),
    ("vnd.ms-pki.stl", ["stl"]), ("vnd.ms-powerpoint", ["pot", "ppa", "pps", "ppt", "pwz"]),
    ("vnd.ms-powerpoint.addin.macroEnabled.12", ["ppam"]),
    ("vnd.ms-powerpoint.presentation.macroEnabled.12", ["pptm"]),
    ("vnd.ms-powerpoint.slide.macroEnabled.12", ["sldm"]),
    ("vnd.ms-powerpoint.slideshow.macroEnabled.12", ["ppsm"]),
    ("vnd.ms-powerpoint.template.macroEnabled.12", ["potm"]), ("vnd.ms-project", ["mpp", "mpt"]),
    ("vnd.ms-visio.viewer", ["vdx"]), ("vnd.ms-word.document.macroEnabled.12", ["docm"]),
    ("vnd.ms-word.template.macroEnabled.12", ["dotm"]),
    ("vnd.ms-works", ["wcm", "wdb", "wks", "wps"]), ("vnd.ms-wpl", ["wpl"]),
    ("vnd.ms-xpsdocument", ["xps"]), ("vnd.mseq", ["mseq"]), ("vnd.musician", ["mus"]),
    ("vnd.muvee.style", ["msty"]), ("vnd.mynfc", ["taglet"]), ("vnd.neurolanguage.nlu", ["nlu"]),
    ("vnd.nitf", ["nitf", "ntf"]), ("vnd.noblenet-directory", ["nnd"]),
    ("vnd.noblenet-sealer", ["nns"]), ("vnd.noblenet-web", ["nnw"]),
    ("vnd.nokia.n-gage.data", ["ngdat"]), ("vnd.nokia.n-gage.symbian.install", ["n-gage"]),
    ("vnd.nokia.radio-preset", ["rpst"]), ("vnd.nokia.radio-presets", ["rpss"]),
    ("vnd.novadigm.edm", ["edm"]), ("vnd.novadigm.edx", ["edx"]), ("vnd.novadigm.ext", ["ext"]),
    ("vnd.oasis.opendocument.chart", ["odc"]), ("vnd.oasis.opendocument.chart-template", ["otc"]),
    ("vnd.oasis.opendocument.database", ["odb"]), ("vnd.oasis.opendocument.formula", ["odf"]),
    ("vnd.oasis.opendocument.formula-template", ["odft"]),
    ("vnd.oasis.opendocument.graphics", ["odg"]),
    ("vnd.oasis.opendocument.graphics-template", ["otg"]),
    ("vnd.oasis.opendocument.image", ["odi"]), ("vnd.oasis.opendocument.image-template", ["oti"]),
    ("vnd.oasis.opendocument.presentation", ["odp"]),
    ("vnd.oasis.opendocument.presentation-template", ["otp"]),
    ("vnd.oasis.opendocument.spreadsheet", ["ods"]),
    ("vnd.oasis.opendocument.spreadsheet-template", ["ots"]),
    ("vnd.oasis.opendocument.text", ["odt"]), ("vnd.oasis.opendocument.text-master", ["odm"]),
    ("vnd.oasis.opendocument.text-template", ["ott"]), ("vnd.oasis.opendocument.text-web", ["oth"]),
    ("vnd.olpc-sugar", ["xo"]), ("vnd.oma.dd2+xml", ["dd2"]),
    ("vnd.openofficeorg.extension", ["oxt"]),
    ("vnd.openxmlformats-officedocument.presentationml.presentation", ["pptx"]),
    ("vnd.openxmlformats-officedocument.presentationml.slide", ["sldx"]),
    ("vnd.openxmlformats-officedocument.presentationml.slideshow", ["ppsx"]),
    ("vnd.openxmlformats-officedocument.presentationml.template", ["potx"]),
    ("vnd.openxmlformats-officedocument.spreadsheetml.sheet", ["xlsx"]),
    ("vnd.openxmlformats-officedocument.spreadsheetml.template", ["xltx"]),
    ("vnd.openxmlformats-officedocument.wordprocessingml.document", ["docx"]),
    ("vnd.openxmlformats-officedocument.wordprocessingml.template", ["dotx"]),
    ("vnd.osgeo.mapguide.package", ["mgp"]), ("vnd.osgi.dp", ["dp"]),
    ("vnd.osgi.subsystem", ["esa"]), ("vnd.palm", ["oprc", "pdb", "pqa"]),
    ("vnd.pawaafile", ["paw"]), ("vnd.pg.format", ["str"]), ("vnd.pg.osasli", ["ei6"]),
    ("vnd.picsel", ["efif"]), ("vnd.pmi.widget", ["wg"]), ("vnd.pocketlearn", ["plf"]),
    ("vnd.powerbuilder6", ["pbd"]), ("vnd.previewsystems.box", ["box"]),
    ("vnd.proteus.magazine", ["mgz"]), ("vnd.publishare-delta-tree", ["qps"]),
    ("vnd.pvi.ptid1", ["ptid"]), ("vnd.quark.quarkxpress", ["qwd", "qwt", "qxb", "qxl", "qxt"]),
    ("vnd.realvnc.bed", ["bed"]), ("vnd.recordare.musicxml", ["mxl"]),
    ("vnd.recordare.musicxml+xml", ["musicxml"]), ("vnd.rig.cryptonote", ["cryptonote"]),
    ("vnd.rn-realmedia", ["rm"]), ("vnd.rn-realmedia-vbr", ["rmvb"]),
    ("vnd.rn-rn_music_package", ["rmp"]), ("vnd.route66.link66+xml", ["link66"]),
    ("vnd.sailingtracker.track", ["st"]), ("vnd.seemail", ["see"]), ("vnd.sema", ["sema"]),
    ("vnd.semd", ["semd"]), ("vnd.semf", ["semf"]), ("vnd.shana.informed.formdata", ["ifm"]),
    ("vnd.shana.informed.formtemplate", ["itp"]), ("vnd.shana.informed.interchange", ["iif"]),
    ("vnd.shana.informed.package", ["ipk"]), ("vnd.simtech-mindmapper", ["twd", "twds"]),
    ("vnd.smart.teacher", ["teacher"]), ("vnd.solent.sdkm+xml", ["sdkd", "sdkm"]),
    ("vnd.spotfire.dxp", ["dxp"]), ("vnd.spotfire.sfs", ["sfs"]),
    ("vnd.stardivision.calc", ["sdc"]), ("vnd.stardivision.draw", ["sda"]),
    ("vnd.stardivision.impress", ["sdd"]), ("vnd.stardivision.math", ["smf"]),
    ("vnd.stardivision.writer", ["sdw", "vor"]), ("vnd.stardivision.writer-global", ["sgl"]),
    ("vnd.stepmania.package", ["smzip"]), ("vnd.stepmania.stepchart", ["sm"]),
    ("vnd.sun.wadl+xml", ["wadl"]), ("vnd.sun.xml.calc", ["sxc"]),
    ("vnd.sun.xml.calc.template", ["stc"]), ("vnd.sun.xml.draw", ["sxd"]),
    ("vnd.sun.xml.draw.template", ["std"]), ("vnd.sun.xml.impress", ["sxi"]),
    ("vnd.sun.xml.impress.template", ["sti"]), ("vnd.sun.xml.math", ["sxm"]),
    ("vnd.sun.xml.writer", ["sxw"]), ("vnd.sun.xml.writer.global", ["sxg"]),
    ("vnd.sun.xml.writer.template", ["stw"]), ("vnd.sus-calendar", ["sus", "susp"]),
    ("vnd.svd", ["svd"]), ("vnd.symbian.install", ["sis", "sisx"]), ("vnd.syncml+xml", ["xsm"]),
    ("vnd.syncml.dm+wbxml", ["bdm"]), ("vnd.syncml.dm+xml", ["xdm"]),
    ("vnd.tao.intent-module-archive", ["tao"]), ("vnd.tcpdump.pcap", ["cap", "dmp", "pcap"]),
    ("vnd.tmobile-livetv", ["tmo"]), ("vnd.trid.tpt", ["tpt"]), ("vnd.triscape.mxs", ["mxs"]),
    ("vnd.trueapp", ["tra"]), ("vnd.ufdl", ["ufd", "ufdl"]), ("vnd.uiq.theme", ["utz"]),
    ("vnd.umajin", ["umj"]), ("vnd.unity", ["unityweb"]), ("vnd.uoml+xml", ["uoml"]),
    ("vnd.vcx", ["vcx"]), ("vnd.visio", ["vsd", "vss", "vst", "vsw", "vsx", "vtx"]),
    ("vnd.visionary", ["vis"]), ("vnd.vsf", ["vsf"]), ("vnd.wap.wbxml", ["wbxml"]),
    ("vnd.wap.wmlc", ["wmlc"]), ("vnd.wap.wmlscriptc", ["wmlsc"]), ("vnd.webturbo", ["wtb"]),
    ("vnd.wolfram.player", ["nbp"]), ("vnd.wordperfect", ["wpd"]), ("vnd.wqd", ["wqd"]),
    ("vnd.wt.stf", ["stf"]), ("vnd.xara", ["xar"]), ("vnd.xfdl", ["xfdl"]),
    ("vnd.yamaha.hv-dic", ["hvd"]), ("vnd.yamaha.hv-script", ["hvs"]),
    ("vnd.yamaha.hv-voice", ["hvp"]), ("vnd.yamaha.openscoreformat", ["osf"]),
    ("vnd.yamaha.openscoreformat.osfpvg+xml", ["osfpvg"]), ("vnd.yamaha.smaf-audio", ["saf"]),
    ("vnd.yamaha.smaf-phrase", ["spf"]), ("vnd.yellowriver-custom-menu", ["cmp"]),
    ("vnd.zul", ["zir", "zirz"]), ("vnd.zzazz.deck+xml", ["zaz"])]

/-- Subtypes that nobody registered. -/
def unregisteredApplications : List (String × List String) :=
  [("x-7z-compressed", ["7z"]), ("x-abiword", ["abw"]), ("x-ace-compressed", ["ace"]),
    ("x-arj", ["arj"]), ("x-authorware-bin", ["aab", "vox", "x32"]), ("x-authorware-map", ["aam"]),
    ("x-authorware-seg", ["aas"]), ("x-bcpio", ["bcpio"]), ("x-bittorrent", ["torrent"]),
    ("x-blorb", ["blb", "blorb"]), ("x-bridge-url", ["adobebridge"]), ("x-bzip", ["bz"]),
    ("x-bzip2", ["boz", "bz2"]), ("x-cbr", ["cb7", "cba", "cbr", "cbt", "cbz"]), ("x-cdf", ["cdf"]),
    ("x-cdlink", ["vcd"]), ("x-cfs-compressed", ["cfs"]), ("x-chat", ["chat"]),
    ("x-chess-pgn", ["pgn"]), ("x-chrome-extension", ["crx"]), ("x-cocoa", ["cco"]),
    ("x-compress", ["z"]), ("x-compressed", ["tgz"]), ("x-cpio", ["cpio"]), ("x-csh", ["csh"]),
    ("x-debian-package", ["udeb"]), ("x-dgc-compressed", ["dgc"]),
    ("x-director", ["cct", "cst", "cxt", "dcr", "dir", "dxr", "fgd", "swa", "w3d"]),
    ("x-doom", ["wad"]), ("x-dtbncx+xml", ["ncx"]), ("x-dtbook+xml", ["dtb"]),
    ("x-dtbresource+xml", ["res"]), ("x-dvi", ["dvi"]), ("x-dxf", ["dxf"]),
    ("x-endace-erf", ["erf"]), ("x-eva", ["eva"]), ("x-font-bdf", ["bdf"]),
    ("x-font-ghostscript", ["gsf"]), ("x-font-linux-psf", ["psf"]), ("x-font-pcf", ["pcf"]),
    ("x-font-snf", ["snf"]), ("x-font-type1", ["pfa"]), ("x-freearc", ["arc"]),
    ("x-gca-compressed", ["gca"]), ("x-glulx", ["ulx"]), ("x-gnumeric", ["gnumeric"]),
    ("x-gramps-xml", ["gramps"]), ("x-gtar", ["gtar"]), ("x-hdf", ["hdf"]),
    ("x-httpd-php", ["php"]), ("x-install-instructions", ["install"]),
    ("x-internet-signup", ["ins", "isp"]), ("x-iphone", ["iii"]), ("x-itunes-ipa", ["ipa"]),
    ("x-itunes-ipg", ["ipg"]), ("x-itunes-ipsw", ["ipsw"]), ("x-itunes-ite", ["ite"]),
    ("x-itunes-itlp", ["itlp"]), ("x-itunes-itms", ["itms"]), ("x-itunes-itpc", ["itpc"]),
    ("x-java-applet", ["class"]), ("x-java-archive-diff", ["jardiff"]),
    ("x-java-jnlp-file", ["jnlp"]), ("x-koan", ["skp"]), ("x-latex", ["latex"]),
    ("x-lua-bytecode", ["luac"]), ("x-lzh-compressed", ["lha"]), ("x-makeself", ["run"]),
    ("x-mie", ["mie"]), ("x-miva-compiled", ["mvc"]), ("x-mmxp", ["mxp"]),
    ("x-mobipocket-ebook", ["mobi", "prc"]), ("x-ms-application", ["application"]),
    ("x-ms-license", ["slupkg-ms"]), ("x-ms-manifest", ["manifest"]), ("x-ms-reader", ["lit"]),
    ("x-ms-shortcut", ["lnk"]), ("x-ms-vsto", ["vsto"]), ("x-ms-wmd", ["wmd"]),
    ("x-ms-wmz", ["wmz"]), ("x-ms-xbap", ["xbap"]), ("x-msaccess", ["mdb"]),
    ("x-msbinder", ["obd"]), ("x-mscardfile", ["crd"]), ("x-msclip", ["clp"]),
    ("x-msdownload", ["bat", "com", "dll"]), ("x-msmediaview", ["m13", "m14", "mvb"]),
    ("x-msmetafile", ["emf", "wmf"]), ("x-msmoney", ["mny"]), ("x-mspublisher", ["pub"]),
    ("x-msschedule", ["scd"]), ("x-msterminal", ["trm"]), ("x-mswrite", ["wri"]),
    ("x-netcdf", ["nc"]), ("x-ns-proxy-autoconfig", ["pac"]), ("x-nzb", ["nzb"]),
    ("x-oleobject", ["hhc"]), ("x-perfmon", ["pma", "pmc", "pml", "pmr", "pmw"]),
    ("x-perl", ["pl", "pm"]), ("x-pkcs12", ["p12", "pfx"]),
    ("x-pkcs7-certificates", ["p7b", "spc"]), ("x-pkcs7-certreqresp", ["p7r"]),
    ("x-podcast", ["pcast"]), ("x-quicktimeplayer", ["qtl"]), ("x-rar-compressed", ["rar"]),
    ("x-research-info-systems", ["ris"]), ("x-safari-safariextz", ["safariextz"]),
    ("x-safari-webarchive", ["webarchive"]), ("x-sgimb", ["sgimb"]), ("x-sh", ["sh"]),
    ("x-shar", ["shar"]), ("x-shockwave-flash", ["mfp", "swf"]), ("x-silverlight-app", ["xap"]),
    ("x-smaf", ["mmf"]), ("x-sql", ["sql"]), ("x-stuffit", ["sit"]), ("x-stuffitx", ["sitx"]),
    ("x-subrip", ["srt"]), ("x-sv4cpio", ["sv4cpio"]), ("x-sv4crc", ["sv4crc"]),
    ("x-t3vm-image", ["t3"]), ("x-tads", ["gam"]), ("x-tar", ["tar"]), ("x-tcl", ["tcl", "tk"]),
    ("x-tex", ["tex"]), ("x-tex-tfm", ["tfm"]), ("x-texinfo", ["texi", "texinfo"]),
    ("x-tgif", ["obj"]), ("x-troff", ["roff", "t", "tr"]), ("x-troff-man", ["man"]),
    ("x-troff-me", ["me"]), ("x-troff-ms", ["ms"]), ("x-ustar", ["ustar"]),
    ("x-virtualbox-hdd", ["hdd"]), ("x-virtualbox-ova", ["ova"]), ("x-virtualbox-ovf", ["ovf"]),
    ("x-virtualbox-vbox", ["vbox"]), ("x-virtualbox-vbox-extpack", ["vbox-extpack"]),
    ("x-virtualbox-vdi", ["vdi"]), ("x-virtualbox-vhd", ["vhd"]), ("x-virtualbox-vmdk", ["vmdk"]),
    ("x-wais-source", ["src"]), ("x-web-app-manifest+json", ["webapp"]),
    ("x-wlpg-detect", ["wlpginstall"]), ("x-wlpg3-detect", ["wlpginstall3"]),
    ("x-x509-ca-cert", ["cer", "crt", "der", "pem"]), ("x-xfig", ["fig"]), ("x-xliff+xml", ["xlf"]),
    ("x-xpinstall", ["xpi"]), ("x-xz", ["xz"]),
    ("x-zmachine", ["z1", "z2", "z3", "z4", "z5", "z6", "z7", "z8"])]

end MediaType

end Manuscript
