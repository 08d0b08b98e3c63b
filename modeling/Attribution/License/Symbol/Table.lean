/-!
The names that license expressions may use: the keys of licenses and exceptions, references to
licenses that have no key of their own, and other names of both.
-/

namespace Attribution.License

/-- The keys of licenses and exceptions, as they are written in an expression. -/
def symbolKeys : List String := [
  "0BSD", "389-exception", "3D-Slicer-1.0", "AAL", "Abstyles", "AdaCore-doc", "Adobe-2006",
  "Adobe-Display-PostScript", "Adobe-Glyph", "Adobe-Utopia", "ADSL", "AFL-1.1", "AFL-1.2",
  "AFL-2.0", "AFL-2.1", "AFL-3.0", "Afmparse", "AGPL-1.0-only", "AGPL-1.0-or-later",
  "AGPL-3.0-only", "AGPL-3.0-or-later", "Aladdin", "AMD-newlib", "AMDPLPA", "AML", "AML-glslang",
  "AMPAS", "ANTLR-PD", "ANTLR-PD-fallback", "any-OSI", "any-OSI-perl-modules", "Apache-1.0",
  "Apache-1.1", "Apache-2.0", "APAFML", "APL-1.0", "App-s2p", "APSL-1.0", "APSL-1.1", "APSL-1.2",
  "APSL-2.0", "Arphic-1999", "Artistic-1.0", "Artistic-1.0-cl8", "Artistic-1.0-Perl",
  "Artistic-2.0", "Artistic-dist", "Aspell-RU", "Asterisk-exception",
  "Asterisk-linking-protocols-exception", "ASWF-Digital-Assets-1.0", "ASWF-Digital-Assets-1.1",
  "Autoconf-exception-2.0", "Autoconf-exception-3.0", "Autoconf-exception-generic",
  "Autoconf-exception-generic-3.0", "Autoconf-exception-macro", "Baekmuk", "Bahyph", "Barr",
  "bcrypt-Solar-Designer", "Beerware", "Bison-exception-1.24", "Bison-exception-2.2",
  "Bitstream-Charter", "Bitstream-Vera", "BitTorrent-1.0", "BitTorrent-1.1", "blessing",
  "BlueOak-1.0.0", "Boehm-GC", "Boehm-GC-without-fee", "Bootloader-exception", "Borceux",
  "Brian-Gladman-2-Clause", "Brian-Gladman-3-Clause", "BSD-1-Clause", "BSD-2-Clause",
  "BSD-2-Clause-Darwin", "BSD-2-Clause-first-lines", "BSD-2-Clause-Patent",
  "BSD-2-Clause-pkgconf-disclaimer", "BSD-2-Clause-Views", "BSD-3-Clause", "BSD-3-Clause-acpica",
  "BSD-3-Clause-Attribution", "BSD-3-Clause-Clear", "BSD-3-Clause-flex", "BSD-3-Clause-HP",
  "BSD-3-Clause-LBNL", "BSD-3-Clause-Modification", "BSD-3-Clause-No-Military-License",
  "BSD-3-Clause-No-Nuclear-License", "BSD-3-Clause-No-Nuclear-License-2014",
  "BSD-3-Clause-No-Nuclear-Warranty", "BSD-3-Clause-Open-MPI", "BSD-3-Clause-Sun", "BSD-4-Clause",
  "BSD-4-Clause-Shortened", "BSD-4-Clause-UC", "BSD-4.3RENO", "BSD-4.3TAHOE",
  "BSD-Advertising-Acknowledgement", "BSD-Attribution-HPND-disclaimer", "BSD-Inferno-Nettverk",
  "BSD-Protection", "BSD-Source-beginning-file", "BSD-Source-Code", "BSD-Systemics",
  "BSD-Systemics-W3Works", "BSL-1.0", "BUSL-1.1", "bzip2-1.0.6", "C-UDA-1.0", "CAL-1.0",
  "CAL-1.0-Combined-Work-Exception", "Caldera", "Caldera-no-preamble", "Catharon", "CATOSL-1.1",
  "CC-BY-1.0", "CC-BY-2.0", "CC-BY-2.5", "CC-BY-2.5-AU", "CC-BY-3.0", "CC-BY-3.0-AT",
  "CC-BY-3.0-AU", "CC-BY-3.0-DE", "CC-BY-3.0-IGO", "CC-BY-3.0-NL", "CC-BY-3.0-US", "CC-BY-4.0",
  "CC-BY-NC-1.0", "CC-BY-NC-2.0", "CC-BY-NC-2.5", "CC-BY-NC-3.0", "CC-BY-NC-3.0-DE",
  "CC-BY-NC-4.0", "CC-BY-NC-ND-1.0", "CC-BY-NC-ND-2.0", "CC-BY-NC-ND-2.5", "CC-BY-NC-ND-3.0",
  "CC-BY-NC-ND-3.0-DE", "CC-BY-NC-ND-3.0-IGO", "CC-BY-NC-ND-4.0", "CC-BY-NC-SA-1.0",
  "CC-BY-NC-SA-2.0", "CC-BY-NC-SA-2.0-DE", "CC-BY-NC-SA-2.0-FR", "CC-BY-NC-SA-2.0-UK",
  "CC-BY-NC-SA-2.5", "CC-BY-NC-SA-3.0", "CC-BY-NC-SA-3.0-DE", "CC-BY-NC-SA-3.0-IGO",
  "CC-BY-NC-SA-4.0", "CC-BY-ND-1.0", "CC-BY-ND-2.0", "CC-BY-ND-2.5", "CC-BY-ND-3.0",
  "CC-BY-ND-3.0-DE", "CC-BY-ND-4.0", "CC-BY-SA-1.0", "CC-BY-SA-2.0", "CC-BY-SA-2.0-UK",
  "CC-BY-SA-2.1-JP", "CC-BY-SA-2.5", "CC-BY-SA-3.0", "CC-BY-SA-3.0-AT", "CC-BY-SA-3.0-DE",
  "CC-BY-SA-3.0-IGO", "CC-BY-SA-4.0", "CC-PDDC", "CC-PDM-1.0", "CC-SA-1.0", "CC0-1.0", "CDDL-1.0",
  "CDDL-1.1", "CDL-1.0", "CDLA-Permissive-1.0", "CDLA-Permissive-2.0", "CDLA-Sharing-1.0",
  "CECILL-1.0", "CECILL-1.1", "CECILL-2.0", "CECILL-2.1", "CECILL-B", "CECILL-C", "CERN-OHL-1.1",
  "CERN-OHL-1.2", "CERN-OHL-P-2.0", "CERN-OHL-S-2.0", "CERN-OHL-W-2.0", "CFITSIO",
  "CGAL-linking-exception", "check-cvs", "checkmk", "ClArtistic", "Classpath-exception-2.0",
  "Clips", "CLISP-exception-2.0", "CMU-Mach", "CMU-Mach-nodoc", "CNRI-Jython", "CNRI-Python",
  "CNRI-Python-GPL-Compatible", "COIL-1.0", "Community-Spec-1.0", "Condor-1.1",
  "copyleft-next-0.3.0", "copyleft-next-0.3.1", "Cornell-Lossless-JPEG", "CPAL-1.0", "CPL-1.0",
  "CPOL-1.02", "Cronyx", "Crossword", "CryptoSwift", "cryptsetup-OpenSSL-exception",
  "CrystalStacker", "CUA-OPL-1.0", "Cube", "curl", "cve-tou", "D-FSL-1.0", "DEC-3-Clause",
  "diffmark", "Digia-Qt-LGPL-exception-1.1", "DigiRule-FOSS-exception", "DL-DE-BY-2.0",
  "DL-DE-ZERO-2.0", "DOC", "DocBook-DTD", "DocBook-Schema", "DocBook-Stylesheet", "DocBook-XML",
  "Dotseqn", "DRL-1.0", "DRL-1.1", "DSDP", "dtoa", "dvipdfm", "ECL-1.0", "ECL-2.0", "eCos-2.0",
  "eCos-exception-2.0", "EFL-1.0", "EFL-2.0", "eGenix", "Elastic-2.0", "Entessa", "EPICS",
  "EPL-1.0", "EPL-2.0", "erlang-otp-linking-exception", "ErlPL-1.1", "etalab-2.0", "EUDatagrid",
  "EUPL-1.0", "EUPL-1.1", "EUPL-1.2", "Eurosym", "Fair", "Fawkes-Runtime-exception", "FBM",
  "FDK-AAC", "Ferguson-Twofish", "FLTK-exception", "fmt-exception", "Font-exception-2.0",
  "Frameworx-1.0", "FreeBSD-DOC", "FreeImage", "freertos-exception-2.0", "FSFAP",
  "FSFAP-no-warranty-disclaimer", "FSFUL", "FSFULLR", "FSFULLRSD", "FSFULLRWD", "FSL-1.1-ALv2",
  "FSL-1.1-MIT", "FTL", "Furuseth", "fwlw", "Game-Programming-Gems", "GCC-exception-2.0",
  "GCC-exception-2.0-note", "GCC-exception-3.1", "GCR-docs", "GD", "generic-xts",
  "GFDL-1.1-invariants-only", "GFDL-1.1-invariants-or-later", "GFDL-1.1-no-invariants-only",
  "GFDL-1.1-no-invariants-or-later", "GFDL-1.1-only", "GFDL-1.1-or-later",
  "GFDL-1.2-invariants-only", "GFDL-1.2-invariants-or-later", "GFDL-1.2-no-invariants-only",
  "GFDL-1.2-no-invariants-or-later", "GFDL-1.2-only", "GFDL-1.2-or-later",
  "GFDL-1.3-invariants-only", "GFDL-1.3-invariants-or-later", "GFDL-1.3-no-invariants-only",
  "GFDL-1.3-no-invariants-or-later", "GFDL-1.3-only", "GFDL-1.3-or-later", "Giftware", "GL2PS",
  "Glide", "Glulxe", "GLWTPL", "Gmsh-exception", "GNAT-exception", "GNOME-examples-exception",
  "GNU-compiler-exception", "gnu-javamail-exception", "gnuplot", "GPL-1.0-only",
  "GPL-1.0-or-later", "GPL-2.0-only", "GPL-2.0-or-later", "GPL-2.0-with-autoconf-exception",
  "GPL-2.0-with-classpath-exception", "GPL-2.0-with-font-exception", "GPL-2.0-with-GCC-exception",
  "GPL-3.0-389-ds-base-exception", "GPL-3.0-interface-exception", "GPL-3.0-linking-exception",
  "GPL-3.0-linking-source-exception", "GPL-3.0-only", "GPL-3.0-or-later",
  "GPL-3.0-with-autoconf-exception", "GPL-3.0-with-GCC-exception", "GPL-CC-1.0", "Graphics-Gems",
  "gSOAP-1.3b", "GStreamer-exception-2005", "GStreamer-exception-2008", "gtkbook", "Gutmann",
  "harbour-exception", "HaskellReport", "HDF5", "hdparm", "HIDAPI", "Hippocratic-2.1", "HP-1986",
  "HP-1989", "HPND", "HPND-DEC", "HPND-doc", "HPND-doc-sell", "HPND-export-US",
  "HPND-export-US-acknowledgement", "HPND-export-US-modify", "HPND-export2-US",
  "HPND-Fenneberg-Livingston", "HPND-INRIA-IMAG", "HPND-Intel", "HPND-Kevlin-Henney",
  "HPND-Markus-Kuhn", "HPND-merchantability-variant", "HPND-MIT-disclaimer", "HPND-Netrek",
  "HPND-Pbmplus", "HPND-sell-MIT-disclaimer-xserver", "HPND-sell-regexpr", "HPND-sell-variant",
  "HPND-sell-variant-MIT-disclaimer", "HPND-sell-variant-MIT-disclaimer-rev", "HPND-UC",
  "HPND-UC-export-US", "HTMLTIDY", "i2p-gpl-java-exception", "IBM-pibs", "ICU",
  "IEC-Code-Components-EULA", "IJG", "IJG-short", "ImageMagick", "iMatix", "Imlib2",
  "Independent-modules-exception", "Info-ZIP", "Inner-Net-2.0", "InnoSetup", "Intel",
  "Intel-ACPI", "Interbase-1.0", "IPA", "IPL-1.0", "ISC", "ISC-Veillard", "Jam", "JasPer-2.0",
  "jove", "JPL-image", "JPNIC", "JSON", "Kastrup", "Kazlib", "KiCad-libraries-exception",
  "Knuth-CTAN", "LAL-1.2", "LAL-1.3", "Latex2e", "Latex2e-translated-notice", "Leptonica",
  "LGPL-2.0-only", "LGPL-2.0-or-later", "LGPL-2.1-only", "LGPL-2.1-or-later",
  "LGPL-3.0-linking-exception", "LGPL-3.0-only", "LGPL-3.0-or-later", "LGPLLR", "Libpng",
  "libpng-1.6.35", "libpng-2.0", "libpri-OpenH323-exception", "libselinux-1.0", "libtiff",
  "Libtool-exception", "libutil-David-Nugent", "LicenseRef-.amazon.com.-AmznSL-1.0",
  "LicenseRef-Liferay-DXP-EULA-2.0.0-2023-06", "LiLiQ-P-1.1", "LiLiQ-R-1.1", "LiLiQ-Rplus-1.1",
  "Linux-man-pages-1-para", "Linux-man-pages-copyleft", "Linux-man-pages-copyleft-2-para",
  "Linux-man-pages-copyleft-var", "Linux-OpenIB", "Linux-syscall-note", "LLGPL", "LLVM-exception",
  "LOOP", "LPD-document", "LPL-1.0", "LPL-1.02", "LPPL-1.0", "LPPL-1.1", "LPPL-1.2", "LPPL-1.3a",
  "LPPL-1.3c", "lsof", "Lucida-Bitmap-Fonts", "LZMA-exception", "LZMA-SDK-9.11-to-9.20",
  "LZMA-SDK-9.22", "Mackerras-3-Clause", "Mackerras-3-Clause-acknowledgment", "magaz", "mailprio",
  "MakeIndex", "man2html", "Martin-Birgmeier", "McPhee-slideshow", "metamail", "mif-exception",
  "Minpack", "MIPS", "MirOS", "MIT", "MIT-0", "MIT-advertising", "MIT-Click", "MIT-CMU",
  "MIT-enna", "MIT-feh", "MIT-Festival", "MIT-Khronos-old", "MIT-Modern-Variant",
  "MIT-open-group", "MIT-testregex", "MIT-Wu", "MITNFA", "MMIXware", "Motosoto", "MPEG-SSG",
  "mpi-permissive", "mpich2", "MPL-1.0", "MPL-1.1", "MPL-2.0", "MPL-2.0-no-copyleft-exception",
  "mplus", "MS-LPL", "MS-PL", "MS-RL", "MTLL", "MulanPSL-1.0", "MulanPSL-2.0", "Multics", "Mup",
  "mxml-exception", "NAIST-2003", "NASA-1.3", "Naumen", "NBPL-1.0", "NCBI-PD", "NCGL-UK-2.0",
  "NCL", "NCSA", "NetCDF", "Newsletr", "NGPL", "ngrep", "NICTA-1.0", "NIST-PD",
  "NIST-PD-fallback", "NIST-Software", "NLOD-1.0", "NLOD-2.0", "NLPL", "Nokia", "NOSL", "Noweb",
  "NPL-1.0", "NPL-1.1", "NPOSL-3.0", "NRL", "NTIA-PD", "NTP", "NTP-0", "O-UDA-1.0", "OAR",
  "OCaml-LGPL-linking-exception", "OCCT-exception-1.0", "OCCT-PL", "OCLC-2.0", "ODbL-1.0",
  "ODC-By-1.0", "OFFIS", "OFL-1.0", "OFL-1.0-no-RFN", "OFL-1.0-RFN", "OFL-1.1", "OFL-1.1-no-RFN",
  "OFL-1.1-RFN", "OGC-1.0", "OGDL-Taiwan-1.0", "OGL-Canada-2.0", "OGL-UK-1.0", "OGL-UK-2.0",
  "OGL-UK-3.0", "OGTSL", "OLDAP-1.1", "OLDAP-1.2", "OLDAP-1.3", "OLDAP-1.4", "OLDAP-2.0",
  "OLDAP-2.0.1", "OLDAP-2.1", "OLDAP-2.2", "OLDAP-2.2.1", "OLDAP-2.2.2", "OLDAP-2.3", "OLDAP-2.4",
  "OLDAP-2.5", "OLDAP-2.6", "OLDAP-2.7", "OLDAP-2.8", "OLFL-1.3", "OML",
  "OpenJDK-assembly-exception-1.0", "OpenPBS-2.3", "OpenSSL", "OpenSSL-standalone", "OpenVision",
  "openvpn-openssl-exception", "OPL-1.0", "OPL-UK-3.0", "OPUBL-1.0", "OSET-PL-2.1", "OSL-1.0",
  "OSL-1.1", "OSL-2.0", "OSL-2.1", "OSL-3.0", "PADL", "Parity-6.0.0", "Parity-7.0.0",
  "PCRE2-exception", "PDDL-1.0", "PHP-3.0", "PHP-3.01", "Pixar", "pkgconf", "Plexus", "pnmstitch",
  "PolyForm-Noncommercial-1.0.0", "PolyForm-Small-Business-1.0.0", "polyparse-exception",
  "PostgreSQL", "PPL", "PS-or-PDF-font-exception-20170817", "PSF-2.0", "psfrag", "psutils",
  "Python-2.0", "Python-2.0.1", "python-ldap", "Qhull", "QPL-1.0", "QPL-1.0-INRIA-2004",
  "QPL-1.0-INRIA-2004-exception", "Qt-GPL-exception-1.0", "Qt-LGPL-exception-1.1",
  "Qwt-exception-1.0", "radvd", "Rdisc", "RHeCos-1.1", "romic-exception", "RPL-1.1", "RPL-1.5",
  "RPSL-1.0", "RRDtool-FLOSS-exception-2.0", "RSA-MD", "RSCPL", "Ruby", "Ruby-pty",
  "SANE-exception", "SAX-PD", "SAX-PD-2.0", "Saxpath", "SCEA", "SchemeReport", "Sendmail",
  "Sendmail-8.23", "Sendmail-Open-Source-1.1", "SGI-B-1.0", "SGI-B-1.1", "SGI-B-2.0",
  "SGI-OpenGL", "SGP4", "SHL-0.5", "SHL-0.51", "SHL-2.0", "SHL-2.1", "SimPL-2.0", "SISSL",
  "SISSL-1.2", "SL", "Sleepycat", "SMAIL-GPL", "SMLNJ", "SMPPL", "SNIA", "snprintf", "SOFA",
  "softSurfer", "Soundex", "Spencer-86", "Spencer-94", "Spencer-99", "SPL-1.0", "ssh-keyscan",
  "SSH-OpenSSH", "SSH-short", "SSLeay-standalone", "SSPL-1.0", "stunnel-exception",
  "SugarCRM-1.1.3", "SUL-1.0", "Sun-PPP", "Sun-PPP-2000", "SunPro", "SWI-exception",
  "Swift-exception", "SWL", "swrule", "Symlinks", "TAPR-OHL-1.0", "TCL", "TCP-wrappers",
  "TermReadKey", "Texinfo-exception", "TGPPL-1.0", "ThirdEye", "threeparttable", "TMate",
  "TORQUE-1.1", "TOSL", "TPDL", "TPL-1.0", "TrustedQSL", "TTWL", "TTYP0", "TU-Berlin-1.0",
  "TU-Berlin-2.0", "u-boot-exception-2.0", "UBDL-exception", "Ubuntu-font-1.0", "UCAR", "UCL-1.0",
  "ulem", "UMich-Merit", "Unicode-3.0", "Unicode-DFS-2015", "Unicode-DFS-2016", "Unicode-TOU",
  "Universal-FOSS-exception-1.0", "UnixCrypt", "Unlicense", "Unlicense-libtelnet",
  "Unlicense-libwhirlpool", "UPL-1.0", "URT-RLE", "Vim", "VOSTROM", "vsftpd-openssl-exception",
  "VSL-1.0", "W3C", "W3C-19980720", "W3C-20150513", "w3m", "Watcom-1.0", "Widget-Workshop",
  "Wsuipa", "WTFPL", "wwl", "wxWindows", "WxWindows-exception-3.1", "X11",
  "X11-distribute-modifications-variant", "X11-swapped", "x11vnc-openssl-exception",
  "Xdebug-1.03", "Xerox", "Xfig", "XFree86-1.1", "xinetd", "xkeyboard-config-Zinoviev", "xlock",
  "Xnet", "xpp", "XSkat", "xzoom", "YPL-1.0", "YPL-1.1", "Zed", "Zeeff", "Zend-2.0", "Zimbra-1.3",
  "Zimbra-1.4", "Zlib", "zlib-acknowledgement", "ZPL-1.1", "ZPL-2.0", "ZPL-2.1"]

/-- What references to licenses without a key start with. -/
def referenceStart : String := "LicenseRef-scancode-"

/-- What follows the start of a reference, for every license that is referred to. -/
def referenceCodes : List String := [
  "3com-microcode", "4suite-1.1", "996-icu-1.0", "a-star-logic-memoire-temp", "aardvark-py-2014",
  "abrms", "ac3filter", "accellera-systemc", "accountability-commercial-1.1",
  "acki-nacki-node-2024-10-04", "acm-sla", "acroname-bdk", "acter-psl-1.0",
  "activepieces-enterprise-2023", "activestate-community", "activestate-community-2012",
  "activestate-komodo-edit", "activision-eula", "actuate-birt-ihub-ftype-sla",
  "adaptec-downloadable", "adaptec-eula", "adcolony-tos-2022", "addthis-mobile-sdk-1.0",
  "adi-bsd", "adi-bsd-2011", "adi-bsd-2017", "adobe-acrobat-reader-eula", "adobe-air-sdk",
  "adobe-air-sdk-2014", "adobe-color-profile-bundling", "adobe-color-profile-license",
  "adobe-dng-sdk", "adobe-dng-spec-patent", "adobe-eula", "adobe-flash-player-eula-21.0",
  "adobe-flex-4-sdk", "adobe-flex-sdk", "adobe-general-tou", "adobe-indesign-sdk",
  "adobe-postscript", "adrian", "aes-128-3.0", "afpl-9.0", "ag-grid-enterprise", "agentxpp",
  "agere-bsd", "agere-sla", "ago-private-1.0", "agpl-2.0", "agpl-generic-additional-terms",
  "agtpl", "alasir", "aldor-public-2.0", "alexisisaac-freeware", "alfresco-exception-0.5",
  "allen-institute-software-2018", "alliance-open-media-patent-1.0", "altermime", "altova-eula",
  "amazon-redshift-jdbc", "amd-aspf-2023", "amd-linux-firmware", "amd-linux-firmware-export",
  "amlogic-linux-firmware", "amplication-ee-2022", "ams-fonts", "anaconda-tos-2024-03-30",
  "android-sdk-2009", "android-sdk-2012", "android-sdk-2021", "android-sdk-license",
  "android-sdk-preview-2015", "anepokis-1.0", "angi-1.0", "anti-capitalist-1.4", "anu-license",
  "apl-1.1", "appfire-eula", "apple-academic-lisa-os-3.1", "apple-attribution",
  "apple-attribution-1997", "apple-excl", "apple-mfi-license", "apple-ml-ferret-2023",
  "apple-mpeg-4", "apple-sscl", "appsflyer-framework", "apromore-exception-2.0", "aptana-1.0",
  "aptana-exception-3.0", "arachni-psl-1.0", "aravindan-premkumar", "argouml", "arm-cortex-mx",
  "arm-llvm-sga", "array-input-method-pl", "artistic-clarified", "ascender-eula",
  "ascender-web-fonts", "aslp", "aslr", "asmus", "asn1", "asn1cc-exception-gpl-2.0", "ati-eula",
  "atkinson-hyperlegible-font", "atlassian-marketplace-tou", "atmel-firmware",
  "atmel-linux-firmware", "atmel-microcontroller", "atmosphere-0.4", "authorizenet-sdk",
  "autodesk-3d-sft-3.0", "autoit-eula", "autoopts-exception-2.0", "autosar-proprietary",
  "avdpro-2023-10-30", "avisynth-c-exception", "avisynth-linking-exception", "avsystem-5-clause",
  "aws-ip-2021", "bacula-exception", "bakoma-fonts-1995", "bapl-1.0", "baserow-ee-2019",
  "baserow-pe-2019", "bash-exception-gpl-2.0", "bcm-linking-exception-2.0", "bea-2.1",
  "beal-screamer", "beegfs-eula", "bento4", "beri-hw-sw-1.0", "bigcode-open-rail-m-v1",
  "bigdigits", "bigscience-open-rail-m", "bigscience-open-rail-m2", "bigscience-rail-1.0",
  "binary-linux-firmware", "binary-linux-firmware-patent", "biopython", "biosl-4.0",
  "bittorrent-1.2", "bittorrent-eula", "bitwarden-1.0", "bitzi-pd", "blas-2017", "blitz-artistic",
  "bloomberg-blpapi", "bohl-0.2", "bola10", "bola11", "boost-original", "boutell-libgd-2021",
  "bpel4ws-spec", "bpmn-io", "brad-martinez-vb-32", "brankas-open-license-1.0", "brent-corkum",
  "brian-clapper", "brian-gladman-3-clause", "broadcom-cfe", "broadcom-commercial",
  "broadcom-confidential", "broadcom-linking-unmodified", "broadcom-linux-firmware",
  "broadcom-linux-timer", "broadcom-opus-patent", "broadcom-proprietary", "broadcom-raspberry-pi",
  "broadcom-standard-terms", "broadcom-unmodified-exception", "broadcom-wiced",
  "broadleaf-fair-use", "brocade-firmware", "bruno-podetti", "bsd-1-clause-build", "bsd-1988",
  "bsd-2-clause-plus-advertizing", "bsd-3-clause-devine", "bsd-3-clause-fda", "bsd-3-clause-jtag",
  "bsd-3-clause-no-change", "bsd-3-clause-no-trademark", "bsd-ack-carrot2", "bsd-artwork",
  "bsd-atmel", "bsd-axis-nomod", "bsd-credit", "bsd-dpt", "bsd-endorsement-allowed", "bsd-export",
  "bsd-gnu-efi", "bsd-innosys", "bsd-mylex", "bsd-new-derivative", "bsd-new-nomod",
  "bsd-new-tcpdump", "bsd-no-disclaimer", "bsd-no-disclaimer-unmodified", "bsd-no-mod",
  "bsd-original-muscle", "bsd-original-voices", "bsd-plus-mod-notice", "bsd-simplified-intel",
  "bsd-simplified-source", "bsd-top-gpl-addition", "bsd-unchanged", "bsd-unmodified", "bsd-x11",
  "bsl-1.0", "bsla-no-advert", "bugsense-sdk", "bytemark", "c-fsl-1.1", "ca-ossl-1.0",
  "cadence-linux-firmware", "can-ogl-alberta-2.1", "can-ogl-british-columbia-2.0",
  "can-ogl-nova-scotia-1.0", "can-ogl-ontario-1.0", "can-ogl-toronto-1.0",
  "canonical-ha-cla-any-e-v1.2", "canonical-ha-cla-any-i-v1.2", "capec-tou", "caramel-1.0",
  "careware", "carnegie-mellon", "cavium-linux-firmware", "cavium-malloc",
  "cavium-targeted-hardware", "cc-by-2.0-uk", "cc-by-nc-nd-2.0-at", "cc-by-nc-nd-2.0-au",
  "cc-by-nc-sa-3.0-us", "cc-devnations-2.0", "cc-gpl-2.0-pt", "cc-lgpl-2.1-pt", "cc-nc-1.0",
  "cc-nc-sampling-plus-1.0", "cc-nd-1.0", "cc-sampling-1.0", "cc-sampling-plus-1.0",
  "ccg-research-academic", "cclrc", "cecill-1.0-en", "cecill-2.0-fr", "cecill-2.1-fr",
  "cecill-b-en", "cecill-c-en", "cern-attribution-1995", "cexcept-2008", "cgic",
  "chameleon-research-2024", "charmpp-2019", "charmpp-converse-2017", "chartdirector-6.0",
  "chelsio-linux-firmware", "chicken-dl-0.2", "chillicream-1.0", "chris-maunder", "chris-stoy",
  "christopher-velazquez", "cisco-avch264-patent", "civicrm-exception-to-agpl-3.0", "classic-vb",
  "clear-bsd-1-clause", "clearthought-2.0", "clojure-exception-to-gpl-3.0", "cloudera-express",
  "cmigemo", "cmu-flite", "cmu-mit", "cmu-nara-nagoya", "cmu-simple", "cmu-template",
  "cncf-corporate-cla-1.0", "cncf-individual-cla-1.0", "cockroach", "cockroachdb-2024-10-01",
  "cockroachdb-use-grant-bsl-1.1", "code-credit-license-1.0.0", "code-credit-license-1.0.1",
  "code-credit-license-1.1.0", "codeguru-permissions", "codelite-exception-to-gpl", "codexia",
  "cognitive-web-osl-1.1", "colt", "com-oreilly-servlet", "commercial-license", "commonj-timer",
  "commons-clause", "compass", "componentace-jcraft", "compuphase-linking-exception",
  "concursive-pl-1.0", "confluent-community-1.0", "cooperative-non-violent-4.0",
  "cooperative-non-violent-6.0", "cooperative-non-violent-7.0", "copyheart",
  "corporate-accountability-1.1", "cosl", "cosli", "couchbase-community", "couchbase-enterprise",
  "cpl-0.5", "cpm-2022", "cpol-1.0", "cpp-core-guidelines", "crapl-0.1",
  "crashlytics-agreement-2018", "crcalc", "crunchbase-data-2019-12-17",
  "crypto-keys-redistribution", "cryptopp", "csla", "csprng", "ctl-linux-firmware",
  "cubiware-software-1.0", "cups", "cups-apple-os-exception", "cvwl", "cwe-tou", "cximage",
  "cygwin-exception-2.0", "cygwin-exception-3.0", "cygwin-exception-lgpl-3.0-plus",
  "cypress-linux-firmware", "cyverse-3-clause-2017", "d-fsl-1.0-en", "d-zlib", "daikon-2022",
  "damail", "databricks-db", "databricks-dbx-2021", "datamekanix-license", "day-spec", "dbad",
  "dbad-1.1", "dbcl-1.0", "dbisl-1.0", "dbmx-foss-exception-1.0.9", "dbmx-linking-exception-1.0",
  "dco-1.0", "dco-1.1", "deepseek-la-1.0", "defensive-patent-1.1", "defold-1.0", "dejavu-font",
  "delorie-historical", "dennis-ferguson", "devblocks-1.0", "dgraph-cla", "dhb-lbnl-bsd-2007",
  "dhb-limited-bsd-2015", "dhtmlab-public", "digia-qt-commercial", "digia-qt-preview",
  "divx-open-1.0", "divx-open-2.1", "djangosnippets-tos", "dl-de-by-1-0-de", "dl-de-by-1-0-en",
  "dl-de-by-2-0-en", "dl-de-by-nc-1-0-de", "dl-de-by-nc-1-0-en", "dmalloc", "dmtf-2017",
  "do-no-harm-0.1", "dom4j", "dos32a-extender", "douglas-young", "dpl-1.1", "dr-john-maddock",
  "dropbear", "dropbear-2016", "dropdown-list-1.0", "drul-1.0", "dtree", "dual-bsd-gpl",
  "dual-commercial-gpl", "duende-sla-2022", "dumb", "dune-exception", "dwtfnmfpl-3.0",
  "dynamic-drive-tou", "dynarch-commercial", "dynarch-developer", "dynarch-linkware", "e-piksel",
  "ecfonts-1.0", "eclipse-sua-2001", "eclipse-sua-2002", "eclipse-sua-2003", "eclipse-sua-2004",
  "eclipse-sua-2005", "eclipse-sua-2010", "eclipse-sua-2011", "eclipse-sua-2014",
  "eclipse-sua-2014-11", "eclipse-sua-2017", "ecma-documentation", "ecma-no-patent",
  "ecma-patent-coc-0", "ecma-patent-coc-1", "ecma-patent-coc-2", "ecos", "ecosrh-1.0",
  "edrdg-2000", "efsl-1.0", "eftl-1.0", "egenix-1.0.0", "ej-technologies-eula",
  "ekiga-exception-2.0-plus", "elastic-license-2018", "elib-gpl", "elixir-trademark-policy",
  "ellis-lab", "embedthis-evaluation", "embedthis-extension", "embedthis-tou-2022", "emit",
  "emx-library", "energyplus", "energyplus-bsd", "enhydra-1.1", "epaperpress", "epo-osl-2005.1",
  "epson-avasys-pl-2008", "epson-linux-sla-2023", "eric-glass", "errbot-exception", "esri",
  "esri-devkit", "etalab-2.0-en", "etri-psl", "eurosym-v2", "eurosym_v2", "examdiff",
  "excelsior-jet-runtime", "fabien-tassin", "fabric-agreement-2017", "facebook-nuclide",
  "facebook-patent-rights-2", "facebook-software-license", "fair-source-0.9", "fancyzoom",
  "far-manager-exception", "fastbuild-2012-2020", "fatfs", "fcl-1.0-apache-2.0", "fcl-1.0-mit",
  "filament-group-mit", "first-epss-usage", "first-works-appreciative-1.2", "flex2sdk",
  "flora-1.1", "flowcrypt-1.0", "flowcrypt-1.1", "flowcrypt-1.2", "flowplayer-gpl-3.0",
  "flux-1-nc", "font-alias", "foobar2000", "fpdf", "fpl", "fplot", "fraunhofer-iso-14496-10",
  "free-art-1.3", "free-fork", "free-surfer-1.0", "free-unknown", "freebsd-boot", "freebsd-first",
  "freemarker", "freertos-mit", "freetype-patent", "froala-owdl-1.0", "frontier-1.0",
  "fsf-notice", "fsf-regex-gpl", "fsl-1.0-apache-2.0", "fsl-1.0-mit", "ftdi", "ftpbean",
  "fujion-exception-to-apache-2.0", "futo-sfl-1.0", "g10-permissive", "gareth-mccaughan",
  "gary-s-brown", "gatling-highcharts", "gaussian-splatting-2024", "gcc-compiler-exception-2.0",
  "gcc-exception-3.0", "gcel-2022", "gco-v3.0", "gdcl", "geant4-sl-1.0", "gemma-tou-2024-04-01",
  "generaluser-gs-2.0", "generic-amiwm", "generic-cla", "generic-exception",
  "generic-export-compliance", "generic-loop", "generic-tos", "generic-trademark",
  "genivia-gsoap", "genode-agpl-3.0-exception", "geoff-kuenning-1993", "geogebra-ncla-2022",
  "geoserver-exception-2.0-plus", "ghostpdl-permissive", "ghostscript-1988",
  "gigablast-apache-2.0-exception", "github-codeql-terms-2020", "gitlab-ee",
  "gitleaks-action-eula", "gitpod-self-hosted-free-2020", "gladman-older-rijndael-code", "glut",
  "gnu-emacs-gpl-1985", "gnu-emacs-gpl-1988", "goahead", "good-boy", "google-analytics-tos",
  "google-analytics-tos-2015", "google-analytics-tos-2016", "google-analytics-tos-2019",
  "google-apis-tos-2021", "google-cla", "google-corporate-cla", "google-maps-tos-2018-02-07",
  "google-maps-tos-2018-05-01", "google-maps-tos-2018-06-07", "google-maps-tos-2018-07-09",
  "google-maps-tos-2018-07-19", "google-maps-tos-2018-10-01", "google-maps-tos-2018-10-31",
  "google-maps-tos-2019-05-02", "google-maps-tos-2019-11-21", "google-maps-tos-2020-04-02",
  "google-maps-tos-2020-04-27", "google-maps-tos-2020-05-06", "google-ml-kit-tos-2022",
  "google-patent-license", "google-patent-license-fuchsia", "google-patent-license-golang",
  "google-patent-license-webm", "google-patent-license-webrtc", "google-playcore-sdk-tos-2020",
  "google-tos-2013", "google-tos-2014", "google-tos-2017", "google-tos-2019", "google-tos-2020",
  "gpl-2.0-adaptec", "gpl-2.0-djvu", "gpl-2.0-koterov", "gpl-generic-additional-terms",
  "gradle-enterprise-sla-2022-11-", "gradle-tou-2022-01-13", "greg-roelofs", "gregory-pietsch",
  "gretelai-sal-1.0", "gsap-standard-no-charge-2025", "gsoap-1.3a", "gstreamer-exception-2.0",
  "gtpl-v1", "gtpl-v2", "gtpl-v3", "gumroad-cl-1.0", "gust-font-1.0", "gust-font-2006-09-30",
  "gutenberg-2020", "h2-1.0", "hacking-license", "hacos-1.2", "happy-bunny",
  "hauppauge-firmware-eula", "hauppauge-firmware-oem", "hazelcast-community-1.0", "hdf4",
  "helios-eula", "helix", "here-disclaimer", "here-proprietary", "hessla", "hfoil-1.0",
  "hippocratic-1.0", "hippocratic-1.1", "hippocratic-1.2", "hippocratic-2.0", "Hippocratic-3.0",
  "historical-ntp", "homebrewed", "hot-potato", "hp", "hp-enterprise-eula", "hp-netperf",
  "hp-proliant-essentials", "hp-snmp-pp", "hp-software-eula", "hp-ux-java", "hp-ux-jre",
  "hs-regexp-orig", "html5", "httpget", "huggingface-tos-20220915", "hugo", "hxd", "ian-kaplan",
  "ian-piumarta", "ibm-as-is", "ibm-data-server-2011", "ibm-developerworks-community", "ibm-dhcp",
  "ibm-employee-written", "ibm-glextrusion", "ibm-icu", "ibm-java-portlet-spec-2.0", "ibm-jre",
  "ibm-nwsc", "ibm-sample", "ibpp", "ic-1.0", "ic-shared-1.0", "icann-public",
  "ice-exception-2.0", "icot-free", "idt-notice", "ietf", "ietf-trust", "ijg-2020", "ilmid",
  "imagen", "indiana-extreme", "infineon-free", "info-zip-1997-10", "info-zip-2001-01",
  "info-zip-2002-02", "info-zip-2003-05", "info-zip-2004-05", "info-zip-2005-02",
  "info-zip-2007-02", "info-zip-2007-03", "info-zip-2009-01", "infonode-1.1",
  "initial-developer-public", "inria-compcert", "inria-icesl", "inria-zelus", "installsite",
  "intel", "intel-bcl", "intel-bsd-2-clause", "intel-code-samples", "intel-confidential",
  "intel-firmware", "intel-master-eula-sw-dev-2016", "intel-material", "intel-mcu-2018",
  "intel-microcode", "intel-osl-1989", "intel-royalty-free", "intel-sample-source-code-2015",
  "intel-scl", "iozone", "ipca", "iptc-2006", "irfanview-eula", "iso-14496-10", "iso-8879",
  "iso-recorder", "isotope-cla", "issl-2018", "issl-2022", "itc-eula", "itu", "itu-t",
  "itu-t-gpl", "itunes", "ja-sig", "jahia-1.3.1", "jam-stapl", "jamon", "jason-mayes",
  "jasper-1.0", "java-app-stub", "java-research-1.5", "java-research-1.6",
  "javascript-exception-2.0", "jboss-eula", "jdbm-1.00", "jdom", "jelurida-public-1.1",
  "jetbrains-purchase-terms", "jetbrains-toolbox-oss-3", "jetty", "jetty-ccla-1.1", "jgraph",
  "jgraph-general", "jide-sla", "jj2000", "jmagnetic", "joinbase-cela-2022",
  "joplin-server-personal-v1", "josl-1.0", "jpegxr", "jpnic-mdnkit", "jprs-oscl-1.1",
  "jpython-1.1", "jquery-pd", "jrunner", "jscheme", "jsel-2.0", "jsfromhell", "json-js-pd",
  "json-pd", "jsr-107-jcache-spec", "jsr-107-jcache-spec-2013", "jython", "kalle-kaukonen",
  "karl-peterson", "katharos-0.1.0", "katharos-0.2.0", "kde-accepted-gpl", "kde-accepted-lgpl",
  "keith-rule", "kerberos", "kevan-stannard", "keypirinha", "kfgqpc-uthmanic-script-hafs",
  "kfqf-accepted-gpl", "khronos", "kreative-relay-fonts-free-1.2f", "kumar-robotics", "larabie",
  "lavantech", "lbnl-bsd", "lcs-telegraphics", "ldap-sdk-free-use", "ldpc-1994", "ldpc-1997",
  "ldpc-1999", "ldpgpl-1", "ldpgpl-1a", "ldpl-1a", "ldpl-2.0", "ldpm-1998",
  "leap-motion-sdk-2019", "lens-tos-2023", "lha", "liberation-font-exception", "libgeotiff",
  "libmib", "libmng-2007", "librato-exception", "libselinux-pd", "libsrv-1.0.2",
  "libticables2-exception-gpl-2.0", "libtool-exception-lgpl", "libwebsockets-exception",
  "liferay-ee", "liferay-marketplace-tos", "lil-1", "lilo", "linking-exception-2.0-plus",
  "linking-exception-2.1-plus", "linking-exception-lgpl-2.0plus", "linotype-eula",
  "linux-device-drivers", "linuxbios", "linuxhowtos", "llama-2-license-2023",
  "llama-3.1-license-2024", "llama-3.2-license-2024", "llama-3.3-license-2024",
  "llama-4-cla-2025", "llama-4-license-2025", "llama-license-2023", "llnl",
  "lmbench-exception-2.0", "logica-1.0", "lontium-linux-firmware", "losla",
  "lsi-proprietary-eula", "ltxv-owl-2025-04-17", "ltxv-owl-2025-05-05", "lucre",
  "lumisoft-mail-server", "luxi", "lyubinskiy-dropdown", "lyubinskiy-popup-window",
  "lzma-sdk-2006", "lzma-sdk-2006-exception", "lzma-sdk-2008", "lzma-sdk-original", "lzma-sdk-pd",
  "magpie-exception-1.0", "make-human-exception", "mame", "manfred-klein-fonts-tos",
  "mapbox-tos-2021", "mapbox-tos-2024", "markus-mummert-permissive", "marvell-firmware",
  "marvell-firmware-2019", "matplotlib-1.3.0", "matt-gallagher-attribution",
  "mattermost-sal-2024", "matthew-kwan", "matthew-welch-font-license", "mattkruse",
  "max-mojo-community-20240828", "maxmind-geolite2-eula-2019", "maxmind-odl", "mcafee-tou",
  "mcrae-pl-4-r53", "mdl-2021", "mediainfo-lib", "mediatek-firmware", "mediatek-no-warranty",
  "mediatek-proprietary-2005", "mediatek-proprietary-2008", "mediatek-proprietary-2010",
  "mediatek-proprietary-2016", "mediatek-proprietary-2020", "melange", "menuet64-2024",
  "merit-network-derivative", "metageek-inssider-eula", "metrolink-1.0", "mgb-1.0",
  "mgopen-font-license", "michael-barr", "michigan-disclaimer", "microchip-enc28j60-2009",
  "microchip-linux-firmware", "microchip-pk2cmd-2009", "microchip-products-2018",
  "microsoft-windows-rally-devkit", "mike95", "minecraft-mod", "mini-xml-exception-lgpl-2.0",
  "mit-1995", "mit-kyle-restrictions", "mit-license-1998", "mit-nagy", "mit-no-trademarks",
  "mit-old-style", "mit-old-style-sparse", "mit-proprietary", "mit-readme",
  "mit-specification-disclaimer", "mit-synopsys", "mldonkey-exception-gpl-2.0", "mod-dav-1.0",
  "moderne-sala-2024", "monetdb-1.1", "monkeysaudio", "morbig-ieee-std-usage", "motorola",
  "mov-ai-1.0", "moxa-linux-firmware", "mozilla-ospl-1.0", "mpeg-7", "mpeg-iso",
  "ms-api-code-pack-net", "ms-asp-net-ajax-supp-terms", "ms-asp-net-mvc3", "ms-asp-net-mvc4",
  "ms-asp-net-mvc4-extensions", "ms-asp-net-software", "ms-asp-net-tools-pre-release",
  "ms-asp-net-web-optimization", "ms-asp-net-web-pages-2", "ms-asp-net-web-pages-templates",
  "ms-azure-data-studio", "ms-azure-rtos-2020-05", "ms-azure-rtos-2020-07",
  "ms-azure-rtos-2023-05", "ms-azure-spatialanchors-2.9.0", "ms-capicom", "ms-cl", "ms-cla",
  "ms-container-eula", "ms-control-spy-2.0", "ms-data-tier-af-2022", "ms-dev-services-2018-06",
  "ms-dev-services-agreement", "ms-device-emulator-3.0", "ms-direct3d-d3d120n7-1.1.0",
  "ms-directx-sdk-eula", "ms-directx-sdk-eula-2020", "ms-dxsdk-d3dx-9.29.952.3",
  "ms-edge-devtools-2022", "ms-edge-webview2", "ms-edge-webview2-fixed",
  "ms-enterprise-library-eula", "ms-entity-framework-4.1", "ms-entity-framework-5",
  "ms-eula-win-script-host", "ms-exchange-srv-2010-sp2-sdk", "ms-iis-container-eula-2020",
  "ms-ilmerge", "ms-invisible-eula-1.0", "ms-jdbc-driver-40-sql-server",
  "ms-jdbc-driver-41-sql-server", "ms-jdbc-driver-60-sql-server", "ms-kinext-win-sdk",
  "ms-limited-community", "ms-msn-webgrease", "ms-net-framework-4-supp-terms",
  "ms-net-framework-deployment", "ms-net-library", "ms-net-library-2016-05",
  "ms-net-library-2018-11", "ms-net-library-2019-06", "ms-net-library-2020-09",
  "ms-nt-resource-kit", "ms-nuget", "ms-nuget-package-manager", "ms-office-extensible-file",
  "ms-office-system-programs-eula", "ms-opus-patent-2012", "ms-patent-promise",
  "ms-patent-promise-mono", "ms-platform-sdk", "ms-pre-release-sla-2023",
  "ms-programsynthesis-7.22.0", "ms-python-vscode-pylance-2021", "ms-reactive-extensions-eula",
  "ms-remote-ndis-usb-kit", "ms-research-shared-source", "ms-rndis", "ms-rsl", "ms-silverlight-3",
  "ms-specification", "ms-sql-server-compact-4.0", "ms-sql-server-data-tools", "ms-sspl",
  "ms-sysinternals-sla", "ms-testplatform-17.0.0", "ms-ttf-eula", "ms-typescript-msbuild-4.1.4",
  "ms-visual-2008-runtime", "ms-visual-2010-runtime", "ms-visual-2015-sdk",
  "ms-visual-cpp-2015-runtime", "ms-visual-studio-2017", "ms-visual-studio-2017-tools",
  "ms-visual-studio-code", "ms-visual-studio-code-2018", "ms-visual-studio-code-2022",
  "ms-vs-addons-ext-17.2.0", "ms-web-developer-tools-1.0", "ms-win-container-eula-2020",
  "ms-win-sdk-server-2008-net-3.5", "ms-windows-driver-kit", "ms-windows-identity-foundation",
  "ms-windows-os-2018", "ms-windows-sdk-win10", "ms-windows-sdk-win10-net-6",
  "ms-windows-sdk-win7-net-4", "ms-windows-server-2003-ddk", "ms-windows-server-2003-sdk",
  "ms-ws-routing-spec", "ms-xamarin-uitest3.2.0", "ms-xml-core-4.0",
  "msdn-magazine-sample-code-2007", "msj-sample-code", "msntp", "msppl", "mstar-2007",
  "mstar-2012", "mtx-licensing-statement", "mui-x-eula-2024", "mulanpsl-1.0-en",
  "mulanpsl-2.0-en", "mulanpubl-1.0", "mulanpubl-2.0", "mule-source-1.1.3", "mule-source-1.1.4",
  "mulle-kybernetik", "musescore-exception-gpl-2.0", "musl-exception", "mut-license", "mvt-1.1",
  "mx4j", "mysql-con-odbc-exception-2.0", "mysql-floss-exception-2.0",
  "mysql-linking-exception-2018", "n8n-ee-2022", "nanoporetech-public-1.0",
  "nant-exception-2.0-plus", "naughter", "ncsa-httpd-1995", "nero-eula", "net-snmp",
  "netapp-sdk-aug2020", "netcat", "netcomponents", "netdata-ncul1", "netron",
  "netronome-firmware", "new-relic", "new-relic-1.0", "newlib-historical", "newran",
  "newton-king-cla", "nexb-eula-saas-1.1.0", "nexb-ssla-1.1.0", "nice", "nicta-exception",
  "niels-ferguson", "nilsson-historical", "nist-nvd-api-tou", "nist-srd", "no-license", "node-js",
  "non-violent-4.0", "non-violent-7.0", "nonexclusive", "nortel-dasa",
  "northwoods-evaluation-2024", "northwoods-sla-2021", "northwoods-sla-2024", "notre-dame",
  "npsl-exception-0.92", "npsl-exception-0.93", "npsl-exception-0.94", "npsl-exception-0.95",
  "ntlm", "ntpl-origin", "nucleusicons-eula", "numerical-recipes-notice", "nvidia",
  "nvidia-apex-sdk-eula-2011", "nvidia-cuda-supplement-2020", "nvidia-dlc-2021", "nvidia-gov",
  "nvidia-isaac-eula-2019.1", "nvidia-ngx-eula-2019", "nvidia-sdk-eula-v0.11",
  "nvidia-video-codec-agreement", "nwhm", "nxp-firmware-patent", "nxp-linux-firmware",
  "nxp-mc-firmware", "nxp-microctl-proprietary", "nxp-warranty-disclaimer", "nysl-0.9982",
  "nysl-0.9982-jp", "o-young-jong", "oasis-ipr-2013", "oasis-ipr-policy-2014",
  "oasis-ws-security-spec", "obsidian-2018", "obsidian-2025", "ocamlpro-nc-v1",
  "ocb-non-military-2013", "ocb-open-source-2013", "ocb-patent-openssl-2013", "oclc-1.0",
  "octl-0.21", "oculus-sdk", "oculus-sdk-2020", "oculus-sdk-3.5", "odb-cpl", "odb-fpl",
  "odb-ncuel", "odin-2000", "odl", "odmg", "ofrak-community-1.0", "ofrak-community-1.1",
  "ofrak-pro-1.0", "ogc", "ogc-document-2020", "ogl-1.0a", "ogl-canada-2.0-fr", "ogl-wpd-3.0",
  "ohdl-1.0", "okl", "oknosoft-2021", "olf-ccla-1.0", "olf-icla-1.0", "oll-1.0", "omg-bpmn-2.0",
  "on2-patent", "onezoom-np-sal-v1", "ooura-2001", "open-aleph-1.0", "open-diameter",
  "open-webui-2025", "open-weights-permissive-1.0.0", "openai-tou-20230314",
  "openai-tou-20241211", "openbd-exception-3.0", "opencarp-1.0", "opengroup-pl", "openi-pl-1.0",
  "openjdk-classpath-exception2.0", "openjdk-exception", "openmap", "openmarket-fastcgi",
  "openmdw-1.0", "openmotif-exception-2.0-plus", "openmrs-exception-to-mpl-2.0",
  "opennetcf-shared-source", "openorb-1.0", "openpace-exception-gpl", "opensaml-1.0",
  "openssl-exception-agpl-3.0", "openssl-exception-agpl3.0monit", "openssl-exception-agpl3.0plus",
  "openssl-exception-gpl-2.0-plus", "openssl-exception-lgpl", "openssl-exception-lgpl2.0plus",
  "openssl-exception-lgpl3.0plus", "openssl-exception-mongodb-sspl",
  "openssl-nokia-psk-contribution", "openvpn-as-eula", "openwall-md5-permissive",
  "opera-eula-2018", "opera-eula-eea-2018", "opera-widget-1.0", "opl-1.0", "opml-1.0", "opnl-1.0",
  "opnl-2.0", "oracle-bcl-java-platform-2013", "oracle-bcl-java-platform-2017",
  "oracle-bcl-javaee", "oracle-bcl-javase-javafx-2012", "oracle-bcl-javase-javafx-2013",
  "oracle-bcl-jsse-1.0.3", "oracle-code-samples-bsd", "oracle-commercial-db-11g2",
  "oracle-devtools-vsnet-dev", "oracle-entitlement-05-15", "oracle-free-2018",
  "oracle-gftc-2023-06-12", "oracle-java-ee-sdk-2010", "oracle-master-agreement",
  "oracle-mysql-foss-exception2.0", "oracle-nftc-2021", "oracle-openjdk-exception-2.0",
  "oracle-otn-javase-2019", "oracle-sql-developer", "oracle-vb-puel-12", "oracle-web-sites-tou",
  "oreilly-notice", "osf-1990", "osgi-spec-2.0", "ossn-3.0", "osvdb", "oswego-concurrent",
  "osxfuse", "other-copyleft", "other-permissive", "otn-dev-dist", "otn-dev-dist-2009",
  "otn-dev-dist-2014", "otn-dev-dist-2016", "otn-early-adopter-2018",
  "otn-early-adopter-development", "otn-standard-2014-09", "otnla-2016-11-30", "owal-1.0",
  "owf-cla-1.0-copyright", "owf-cla-1.0-copyright-patent", "owfa-1.0", "owfa-1.0-patent-only",
  "owl-0.9.4", "owtchart", "oxygen-xml-dev-eula-2025", "oxygen-xml-webhelp-eula", "ozplb-1.0",
  "ozplb-1.1", "paint-net", "paolo-messina-2000", "paraview-1.2", "passive-aggressive",
  "patent-disclaimer", "paul-hsieh-derivative", "paul-hsieh-exposition", "paul-mackerras-binary",
  "paul-mackerras-simplified", "paulo-soares", "paypal-sdk-2013-2016", "pbl-1.0", "pcre",
  "pd-mit", "pd-programming", "pdf-creator-pilot", "pdl-1.0", "perl-1.0",
  "pfe-proprietary-notice", "pftijah-1.1", "pftus-1.1", "phaser-academic", "phaser-ccp4",
  "phaser-phenix", "phil-bunce", "philippe-de-muyter", "philips-proprietary-notice2000",
  "phorum-2.0", "php-2.0.2", "pine", "pipedream-sal-1.0", "pivotal-tou", "pixabay-content",
  "planet-source-code", "plastimatch-1.0", "playground-v2-community", "plural-20211124",
  "pml-2020", "pngsuite", "politepix-pl-1.0", "polyform-free-trial-1.0.0",
  "polyform-internal-use-1.0.0", "polyform-perimeter-1.0.0", "polyform-perimeter-1.0.1",
  "polyform-shield-1.0.0", "polyform-strict-1.0.0", "powervr-tools-software-eula", "ppp",
  "proconx-modbus-rev4", "proftpd-openssl-exception-2.0", "proguard-exception-2.0", "proprietary",
  "proprietary-license", "prosperity-1.0.1", "prosperity-2.0", "prosperity-3.0", "protobuf",
  "psf-3.7.2", "psytec-freesoft", "public-domain", "public-domain-disclaimer", "punycode",
  "pybench", "pycrypto", "pygres-2.2", "python-cwi", "qaplug", "qca-linux-firmware",
  "qca-technology", "qcad-exception-gpl", "qlogic-firmware", "qlogic-microcode", "qpopper",
  "qskinny-exception-lgpl-2.1", "qt-commercial-1.1", "qt-commercial-agreement-4.4.1",
  "qt-kde-linking-exception", "qt-qca-exception-2.0", "qti-linux-firmware", "quadratic-sal-2024",
  "qualcomm-iso", "qualcomm-turing", "quickfix-1.0", "quicktime", "quin-street", "quirksmode",
  "rackspace", "radiance-sl-v1.0", "radiance-sl-v2.0", "ralink-firmware", "rar-winrar-eula",
  "rcsl-2.0", "rcsl-3.0", "reactos-exception-gpl-2.0", "reading-godiva-2010",
  "realm-platform-extension-2017", "red-hat-attribution", "red-hat-bsd-simplified",
  "red-hat-logos", "red-hat-trademarks", "redis-source-available-1.0", "redpanda-community-la",
  "reportbug", "research-disclaimer", "responsible-ai-source-1.0", "responsible-ai-source-1.1",
  "retentioneering-2023", "retype-3.7.0", "rh-eula", "rh-eula-apache2", "rh-eula-gpl2",
  "rh-eula-lgpl", "rh-standard-eula-2019", "rh-ubi-eula-2019", "ricebsd", "richard-black",
  "ril-2019", "riverbank-sip", "robert-hubley", "rockchip-proprietary-2019",
  "rockchip-proprietary-2022", "rockchip-proprietary-2023", "rocket-master-terms-2022",
  "rogue-wave", "root-cert-3.0", "rsa-1990", "rsa-cryptoki", "rsa-demo", "rsa-md2", "rsa-md4",
  "rsa-proprietary", "rsalv2", "rtems-exception-2.0", "rtools-util", "rubyencoder-commercial",
  "rubyencoder-loader", "rute", "rwth-returnn-2024", "rxtx-exception-lgpl-2.1", "ryszard-szopa",
  "s-lab-1.0", "saas-mit", "saf", "safecopy-eula", "salesforcesans-font", "samba-dc-1.0",
  "san-francisco-font", "sandeep", "sash", "sata", "saxix-mit", "sbia-b",
  "scancode-acknowledgment", "scanlogd-license", "scansoft-1.2", "scilab-en", "scilab-fr",
  "scintilla", "scola-en", "scola-fr", "scribbles", "script-asylum", "script-nikhilk", "scrub",
  "scsl-3.0", "scylladb-sla-1.0", "secret-labs-2011", "selv1", "semaphore-ee-2025",
  "semgrep-registry", "semgrep-rules-1.0", "sencha-app-floss-exception", "sencha-commercial",
  "sencha-commercial-3.17", "sencha-commercial-3.9", "sencha-dev-floss-exception",
  "service-comp-arch", "sgi-cid-1.0", "sgi-glx-1.0", "sglib", "sgmlug", "sh-cla-1.1",
  "shavlik-eula", "shital-shah", "signal-gpl-3.0-exception", "silicon-image-2007", "simpl-1.1",
  "six-labors-split-1.0", "skip-2014", "slf4j-2005", "slf4j-2008", "slint-commercial-2.0",
  "slint-royalty-free-1.0", "slysoft-eula", "smartlabs-freeware", "smsc-non-commercial-2012",
  "snapeda-design-exception-1.0", "snmp4j-smi", "socketxx-2003", "softerra-ldap-browser-eula",
  "softfloat", "softfloat-2.0", "solace-software-eula-2020", "soml-1.0", "sonar-sal-1.0",
  "spark-jive", "sparky", "speechworks-1.1", "spell-exception-lgpl-2.1-plus", "splunk-3pp-eula",
  "splunk-mint-tos-2018", "splunk-sla", "sqlitestudio-exception", "square-cla", "squeak", "srgb",
  "ssleay", "st-bsd-restricted", "st-mcd-2.0", "stable-diffusion-2022-08-22", "stanford-mrouted",
  "stanford-pvrg", "statewizard", "stax", "stlport-2000", "stmicroelectronics-centrallabs",
  "stream-benchmark", "strongswan-exception", "stu-nicholls", "subcommander-exception-2.0plus",
  "sudo", "sun-bcl-11-06", "sun-bcl-11-07", "sun-bcl-11-08", "sun-bcl-j2re-1.2.x",
  "sun-bcl-j2re-1.4.2", "sun-bcl-j2re-1.4.x", "sun-bcl-j2re-5.0",
  "sun-bcl-java-servlet-imp-2.1.1", "sun-bcl-javahelp", "sun-bcl-jimi-sdk", "sun-bcl-jre6",
  "sun-bcl-jsmq", "sun-bcl-opendmk", "sun-bcl-openjdk", "sun-bcl-sdk-1.3", "sun-bcl-sdk-1.4.2",
  "sun-bcl-sdk-5.0", "sun-bcl-sdk-6.0", "sun-bcl-web-start", "sun-bsd-extra", "sun-cc-pp-1.0",
  "sun-communications-api", "sun-ejb-spec-2.1", "sun-ejb-spec-3.0", "sun-entitlement-03-15",
  "sun-entitlement-jaf", "sun-glassfish", "sun-iiop", "sun-java-transaction-api",
  "sun-java-web-services-dev-1.6", "sun-javamail", "sun-jsr-spec-04-2006", "sun-jta-spec-1.0.1",
  "sun-jta-spec-1.0.1b", "sun-no-high-risk-activities", "sun-project-x",
  "sun-prop-non-commercial", "sun-proprietary-jdk", "sun-rpc", "sun-sdk-spec-1.1",
  "sun-sissl-1.0", "sun-source", "sun-ssscfr-1.1", "sunsoft", "supervisor", "svndiff", "svprint",
  "swig", "sybase", "symphonysoft", "synopsys-attribution", "synopsys-mit",
  "syntext-serna-exception-1.0", "synthesis-toolkit", "t-engine-public", "takuya-ooura",
  "taligent-jdk", "tanuki-community-sla-1.0", "tanuki-community-sla-1.1",
  "tanuki-community-sla-1.2", "tanuki-community-sla-1.3", "tanuki-development",
  "tanuki-maintenance", "tcg-spec-license-v1", "teamdev-services", "tekhvc", "telerik-eula",
  "tenable-nessus", "tested-software", "tex-live", "tfl", "the-stack-tos-2023-07",
  "things-i-made-public-license", "thomas-bandt", "ti-broadband-apps", "ti-linux-firmware",
  "ti-restricted", "tiger-crypto", "tigra-calendar-3.2", "tigra-calendar-4.0", "tim-janik-2003",
  "timestamp-picker", "tizen-sdk", "tongyi-qianwen-2023", "toppers-educational",
  "toppers-license", "tpl-1.0", "tpl-2.0", "trainy-1.0", "trca-odl-1.0", "treeview-developer",
  "treeview-distributor", "treeware-option-1", "treeware-option-2", "trendmicro-cl-1.0",
  "triptracker", "trolltech-gpl-exception-1.0", "trolltech-gpl-exception-1.1",
  "trolltech-gpl-exception-1.2", "truecrypt-3.1", "trustonic-proprietary-2013", "tsl-2018",
  "tsl-2020", "tso-license", "ttcl", "tumbolia", "twisted-snmp", "txl-10.5", "ubc", "ugui",
  "un-cefact-2016", "unicode", "unicode-icu-58", "unicode-mappings", "unicode-ucd", "unknown",
  "unknown-license-reference", "unknown-spdx", "unlimited-binary-linking",
  "unlimited-binary-use-exception", "unlimited-link-exception-gpl",
  "unlimited-link-exception-lgpl", "unpbook", "unpublished-source", "unrar", "unrar-v3",
  "unsplash", "unstated", "uofu-rfpl", "upx-exception-2.0-plus", "us-govt-geotranform",
  "us-govt-public-domain", "us-govt-unlimited-rights", "usrobotics-permissive", "utah-csl",
  "utopia", "vaadin-cvdl-4.0", "vanderbilt-sla-1.0", "vbaccelerator", "vcalendar",
  "vcvrack-exception-to-gpl-3.0", "verisign", "vhfpl-1.1", "vic-metcalfe-pd",
  "vicomsoft-software", "viewflow-agpl-3.0-exception", "vince", "visual-idiot", "visual-numerics",
  "vita-nuova-liberal", "vitesse-prop", "vixie-cron", "vnc-viewer-ios", "volatility-vsl-v1.0",
  "volla-1.0", "vpl-1.1", "vpl-1.2", "vs10x-code-map", "vuforia-2013-07-29", "vvvvvv-scl-1.0",
  "w3c-03-bsd-license", "w3c-community-cla", "w3c-community-final-spec", "w3c-docs-19990405",
  "w3c-docs-20021231", "w3c-documentation", "w3c-software-2023", "w3c-test-suite", "wadalab",
  "warranty-disclaimer", "waterfall-feed-parser", "westhawk", "whistle", "whitecat",
  "whosonfirst-license", "wide-license", "wifi-alliance", "william-alexander",
  "wince-50-shared-source", "windriver-commercial", "wingo", "winidea-sdk-2025", "wink",
  "winzip-eula", "winzip-self-extractor", "wol", "woodruff-2002", "wordnet", "wrox",
  "wrox-download", "ws-addressing-spec", "ws-policy-specification", "ws-trust-specification",
  "wtfnmfpl-1.0", "wtfpl-1.0", "wthpl-1.0", "wxwidgets", "wxwindows-free-doc-3",
  "wxwindows-r-3.0", "wxwindows-u-3.0", "x11-acer", "x11-adobe-dec", "x11-dec1", "x11-doc",
  "x11-dsc", "x11-hanson", "x11-ibm", "x11-lucent-variant", "x11-quarterdeck", "x11-realmode",
  "x11-sg", "x11-stanford", "x11-tektronix", "x11-x11r5", "x11-xconsortium-veillard",
  "xceed-community-2021", "xenomai-gpl-exception", "xfree86-1.0", "xilinx-2016", "xiph-patent",
  "xming", "xmldb-1.0", "xmos-commercial-2017", "xmos-public-1", "xxd", "yahoo-browserplus-eula",
  "yahoo-messenger-eula", "yale-cas", "yensdesign", "yolo-1.0", "yolo-2.0", "zapatec-calendar",
  "zendesk-appdev-api-2022", "zeromq-exception-lgpl-3.0", "zeusbench", "zhorn-stickies", "zipeg",
  "ziplist5-geocode-dup-addendum", "ziplist5-geocode-enterprise", "ziplist5-geocode-workstation",
  "zpl-1.0", "zrythm-exception-agpl-3.0", "zsh", "zuora-software", "zveno-research"]

/-- Other names, each with the key or reference it stands for. -/
def symbolAliases : List (String × String) := [
  ("AGPL-1.0", "AGPL-1.0-only"), ("AGPL-1.0+", "AGPL-1.0-or-later"),
  ("AGPL-3.0", "AGPL-3.0-only"), ("AGPL-3.0+", "AGPL-3.0-or-later"),
  ("assembly-exception", "LicenseRef-scancode-openjdk-exception"), ("BSD-2", "BSD-2-Clause"),
  ("BSD-2-Clause-FreeBSD", "BSD-2-Clause-Views"), ("BSD-2-Clause-NetBSD", "BSD-2-Clause"),
  ("bzip2-1.0.5", "bzip2-1.0.6"), ("GFDL-1.1", "GFDL-1.1-only"),
  ("GFDL-1.1+", "GFDL-1.1-or-later"), ("GFDL-1.2", "GFDL-1.2-only"),
  ("GFDL-1.2+", "GFDL-1.2-or-later"), ("GFDL-1.3", "GFDL-1.3-only"),
  ("GFDL-1.3+", "GFDL-1.3-or-later"), ("GPL", "GPL-1.0-or-later"), ("GPL 2.0", "GPL-2.0-only"),
  ("GPL 2.0+", "GPL-2.0-or-later"), ("GPL-1.0", "GPL-1.0-only"), ("GPL-1.0+", "GPL-1.0-or-later"),
  ("GPL-2.0", "GPL-2.0-only"), ("GPL-2.0+", "GPL-2.0-or-later"), ("GPL-3.0", "GPL-3.0-only"),
  ("GPL-3.0+", "GPL-3.0-or-later"), ("LGPL-2.0", "LGPL-2.0-only"),
  ("LGPL-2.0+", "LGPL-2.0-or-later"), ("LGPL-2.1", "LGPL-2.1-only"),
  ("LGPL-2.1+", "LGPL-2.1-or-later"), ("LGPL-3.0", "LGPL-3.0-only"),
  ("LGPL-3.0+", "LGPL-3.0-or-later"), ("LicenseRef-AGPL", "AGPL-3.0-or-later"),
  ("LicenseRef-AGPL-3.0", "AGPL-3.0-only"), ("LicenseRef-Apache", "Apache-2.0"),
  ("LicenseRef-Apache-2.0", "Apache-2.0"),
  ("LicenseRef-Commercial", "LicenseRef-scancode-commercial-license"),
  ("LicenseRef-elixir-trademark-policy", "LicenseRef-scancode-elixir-trademark-policy"),
  ("LicenseRef-Fedora-Public-Domain", "LicenseRef-scancode-public-domain"),
  ("LicenseRef-Fedora-UltraPermissive", "LicenseRef-scancode-other-permissive"),
  ("LicenseRef-GPL", "GPL-1.0-or-later"), ("LicenseRef-GPL-2.0", "GPL-2.0-only"),
  ("LicenseRef-gpl-3.0", "GPL-3.0-only"), ("LicenseRef-GPL-3.0-or-later", "GPL-3.0-or-later"),
  ("LicenseRef-KDE-Accepted-GPL", "LicenseRef-scancode-kde-accepted-gpl"),
  ("LicenseRef-KDE-Accepted-LGPL", "LicenseRef-scancode-kde-accepted-lgpl"),
  ("LicenseRef-KFQF-Accepted-GPL", "LicenseRef-scancode-kfqf-accepted-gpl"),
  ("LicenseRef-LGPL", "LGPL-2.0-or-later"), ("LicenseRef-LGPL-2", "LGPL-2.0-only"),
  ("LicenseRef-LGPL-2.0", "LGPL-2.0-only"), ("LicenseRef-LGPL-2.1", "LGPL-2.1-only"),
  ("LicenseRef-LICENSE", "LicenseRef-scancode-proprietary-license"),
  ("LicenseRef-LICENSE.md", "LicenseRef-scancode-proprietary-license"),
  ("LicenseRef-MIT-Bootstrap", "MIT"), ("LicenseRef-MIT-Diehl", "MIT"),
  ("LicenseRef-MIT-Discord", "MIT"), ("LicenseRef-MIT-TC", "MIT"),
  ("LicenseRef-Proprietary-HERE", "LicenseRef-scancode-here-proprietary"),
  ("LicenseRef-PublicDomain", "LicenseRef-scancode-public-domain"),
  ("LicenseRef-UFL-1.0", "Ubuntu-font-1.0"), ("Net-SNMP", "LicenseRef-scancode-net-snmp"),
  ("Nokia-Qt-exception-1.1", "Qt-LGPL-exception-1.1"), ("Nunit", "zlib-acknowledgement"),
  ("StandardML-NJ", "SMLNJ"), ("verbatim-man-pages", "Linux-man-pages-copyleft")]

/-- What follows the start of references to licenses that have a key by now, with the key. -/
def keyedCodes : List (String × String) := [
  ("3dslicer-1.0", "3D-Slicer-1.0"), ("acdl-1.0", "CDL-1.0"),
  ("ada-linking-exception", "GNAT-exception"),
  ("amazon-sl", "LicenseRef-.amazon.com.-AmznSL-1.0"), ("amd-historical", "AMD-newlib"),
  ("apache-patent-exception", "mxml-exception"),
  ("apple-runtime-library-exception", "Swift-exception"), ("arphic-public", "Arphic-1999"),
  ("artistic-1988-1.0", "Artistic-dist"), ("aswf-digital-assets-1.0", "ASWF-Digital-Assets-1.0"),
  ("aswf-digital-assets-1.1", "ASWF-Digital-Assets-1.1"),
  ("autoconf-macro-exception", "Autoconf-exception-macro"),
  ("autoconf-simple-exception", "Autoconf-exception-generic-3.0"),
  ("autoconf-simple-exception-2.0", "Autoconf-exception-generic"), ("baekmuk-fonts", "Baekmuk"),
  ("bigelow-holmes", "Lucida-Bitmap-Fonts"), ("bison-exception-2.0", "Bison-exception-1.24"),
  ("bitstream", "Bitstream-Vera"), ("brian-gladman", "Brian-Gladman-2-Clause"),
  ("brian-gladman-dual", "Brian-Gladman-3-Clause"),
  ("bsd-3-clause-no-military", "BSD-3-Clause-No-Military-License"),
  ("bsd-3-clause-sun", "BSD-3-Clause-Sun"), ("bsd-original-uc-1986", "BSD-4.3RENO"),
  ("bsd-simplified-darwin", "BSD-2-Clause-Darwin"), ("bsd-top", "BSD-Source-beginning-file"),
  ("bsl-1.1", "BUSL-1.1"), ("bsla", "BSD-4.3TAHOE"), ("carnegie-mellon-contributors", "CMU-Mach"),
  ("catharon-osl", "Catharon"), ("cc-pdm-1.0", "CC-PDM-1.0"), ("cc-sa-1.0", "CC-SA-1.0"),
  ("clause-6-exception-lgpl-2.1", "polyparse-exception"), ("click-license", "MIT-Click"),
  ("clips-2017", "Clips"), ("cmu-computing-services", "BSD-Attribution-HPND-disclaimer"),
  ("codesourcery-2004", "HPND-merchantability-variant"), ("cryptoswift", "CryptoSwift"),
  ("csl-1.0", "Community-Spec-1.0"), ("cve-tou", "cve-tou"),
  ("dante-treglia", "Game-Programming-Gems"), ("dl-de-by-2-0-de", "DL-DE-BY-2.0"),
  ("docbook", "DocBook-XML"), ("ekioh", "MIT-0"), ("elastic-license-v2", "Elastic-2.0"),
  ("etalab-2.0-fr", "etalab-2.0"), ("fastcgi-devkit", "OML"), ("fftpack-2004", "NCL"),
  ("flex-2.5", "BSD-3-Clause-flex"), ("fraunhofer-fdk-aac-codec", "FDK-AAC"),
  ("freebsd-doc", "FreeBSD-DOC"), ("freetts", "MIT-Festival"),
  ("fsf-unlimited-no-warranty", "FSFULLRWD"), ("fsl-1.1-apache-2.0", "FSL-1.1-ALv2"),
  ("fsl-1.1-mit", "FSL-1.1-MIT"), ("graphics-gems", "Graphics-Gems"),
  ("guile-exception-2.0", "harbour-exception"), ("hdf5", "HDF5"), ("hdparm", "hdparm"),
  ("hidapi", "HIDAPI"), ("hippocratic-2.1", "Hippocratic-2.1"),
  ("historical-sell-variant", "HPND-sell-variant"),
  ("independent-module-linking-exception", "Independent-modules-exception"),
  ("indie-module-linking-exception", "Independent-modules-exception"),
  ("inner-net-2.0", "Inner-Net-2.0"), ("inno-setup", "InnoSetup"),
  ("inria-linking-exception", "QPL-1.0-INRIA-2004-exception"),
  ("intel-bsd", "BSD-3-Clause-acpica"), ("intel-osl-1993", "HPND-Intel"),
  ("iolib-exception-2.0", "GNU-compiler-exception"), ("jam", "Jam"),
  ("kevlin-henney", "HPND-Kevlin-Henney"), ("lgpl-3-plus-linking", "LGPL-3.0-linking-exception"),
  ("libgd-2018", "GD"), ("libpbm", "xlock"), ("libzip", "BSD-3-Clause"),
  ("linking-exception-agpl-3.0", "romic-exception"),
  ("linking-exception-lgpl-3.0", "LGPL-3.0-linking-exception"), ("llgpl", "LLGPL"),
  ("m-plus", "mplus"), ("markus-kuhn-license", "HPND-Markus-Kuhn"),
  ("martin-birgmeier", "Martin-Birgmeier"), ("minpack", "Minpack"), ("mit-addition", "MIT-Wu"),
  ("mit-modern", "MIT-Modern-Variant"), ("mit-modification-obligations", "HPND-export-US-modify"),
  ("mit-no-advert-export-control", "HPND-export2-US"), ("mit-taylor-variant", "pkgconf"),
  ("mit-veillard-variant", "ISC-Veillard"),
  ("mit-with-modification-obligations", "HPND-export-US-modify"), ("mit-xfig", "Xfig"),
  ("mozilla-gc", "Boehm-GC"), ("mpeg-ssg", "MPEG-SSG"), ("ms-lpl", "MS-LPL"),
  ("naist-2003", "NAIST-2003"), ("ncbi", "NCBI-PD"), ("nicta-psl", "NICTA-1.0"),
  ("nrl-permission", "CMU-Mach-nodoc"), ("nvidia-2002", "AML-glslang"),
  ("object-form-exception-to-mit", "fmt-exception"), ("odc-1.0", "ODC-By-1.0"),
  ("openpbs-2.3", "OpenPBS-2.3"), ("openpub", "OPUBL-1.0"), ("openssl", "OpenSSL-standalone"),
  ("openssl-exception-gpl-2.0", "x11vnc-openssl-exception"),
  ("openssl-exception-gpl-3.0-plus", "cryptsetup-OpenSSL-exception"),
  ("paul-mackerras", "Mackerras-3-Clause-acknowledgment"),
  ("paul-mackerras-new", "Mackerras-3-Clause"), ("peter-deutsch-document", "LPD-document"),
  ("polyform-noncommercial-1.0.0", "PolyForm-Noncommercial-1.0.0"),
  ("polyform-small-business-1.0.0", "PolyForm-Small-Business-1.0.0"), ("psf-2.0", "PSF-2.0"),
  ("purdue-bsd", "lsof"), ("qt-company-exception-lgpl-2.1", "Digia-Qt-LGPL-exception-1.1"),
  ("radvd", "radvd"), ("regexp", "Spencer-86"), ("repoze", "BSD-3-Clause-Modification"),
  ("rrdtool-floss-exception-2.0", "RRDtool-FLOSS-exception-2.0"),
  ("sane-exception-2.0-plus", "SANE-exception"), ("shl-2.0", "SHL-2.0"), ("shl-2.1", "SHL-2.1"),
  ("snprintf", "snprintf"), ("softsurfer", "softSurfer"), ("ssh-keyscan", "ssh-keyscan"),
  ("ssleay-windows", "SSLeay-standalone"), ("stlport-4.5", "Boehm-GC-without-fee"),
  ("sunpro", "SunPro"), ("sustainable-use-1.0", "SUL-1.0"), ("tapr-ohl-1.0", "TAPR-OHL-1.0"),
  ("tatu-ylonen", "SSH-short"), ("term-readkey", "TermReadKey"), ("termreadkey", "TermReadKey"),
  ("tex-exception", "Texinfo-exception"), ("tgppl-1.0", "TGPPL-1.0"), ("thor-pl", "TPL-1.0"),
  ("ttyp0", "TTYP0"), ("ubdl", "UBDL-exception"), ("ubuntu-font-1.0", "Ubuntu-font-1.0"),
  ("unicode-v3", "Unicode-3.0"), ("verbatim-manual", "Linux-man-pages-copyleft"),
  ("x11-adobe", "Adobe-Display-PostScript"), ("x11-bitstream", "Bitstream-Charter"),
  ("x11-dec2", "HPND-DEC"), ("x11-fsf", "X11-distribute-modifications-variant"),
  ("x11-lucent", "dtoa"), ("x11-oar", "OAR"), ("x11-opengl", "SGI-OpenGL"),
  ("x11-opengroup", "MIT-open-group")]

/-- What follows the start of references that are written in another way by now, in the old way and
in the new one. -/
def renamedCodes : List (String × String) := [
  ("cockroachdb-use-grant-for-bsl-1.1", "cockroachdb-use-grant-bsl-1.1"),
  ("corporate-accountability-commercial-1.1", "accountability-commercial-1.1"),
  ("exception-3.0", "gcc-exception-3.0"),
  ("gladman-older-rijndael-code-use", "gladman-older-rijndael-code"),
  ("jetbrains-toolbox-open-source-3", "jetbrains-toolbox-oss-3"),
  ("kreative-relay-fonts-free-use-1.2f", "kreative-relay-fonts-free-1.2f"),
  ("linking-exception-lgpl-2.0-plus", "linking-exception-lgpl-2.0plus"),
  ("microsoft-enterprise-library-eula", "ms-enterprise-library-eula"),
  ("ms-asp-net-ajax-supplemental-terms", "ms-asp-net-ajax-supp-terms"),
  ("ms-asp-net-web-optimization-framework", "ms-asp-net-web-optimization"),
  ("ms-developer-services-agreement", "ms-dev-services-agreement"),
  ("ms-developer-services-agreement-2018-06", "ms-dev-services-2018-06"),
  ("ms-exchange-server-2010-sp2-sdk", "ms-exchange-srv-2010-sp2-sdk"),
  ("ms-iis-container-images-eula-2020", "ms-iis-container-eula-2020"),
  ("ms-net-framework-4-supplemental-terms", "ms-net-framework-4-supp-terms"),
  ("ms-windows-container-base-image-eula-2020", "ms-win-container-eula-2020"),
  ("ms-windows-sdk-server-2008-net-3.5", "ms-win-sdk-server-2008-net-3.5"),
  ("mysql-connector-odbc-exception-2.0", "mysql-con-odbc-exception-2.0"),
  ("nxp-microcontroller-proprietary", "nxp-microctl-proprietary"),
  ("openjdk-classpath-exception-2.0", "openjdk-classpath-exception2.0"),
  ("opensc-openssl-openpace-exception-gpl", "openpace-exception-gpl"),
  ("openssl-exception-agpl-3.0-monit", "openssl-exception-agpl3.0monit"),
  ("openssl-exception-agpl-3.0-plus", "openssl-exception-agpl3.0plus"),
  ("openssl-exception-lgpl-2.0-plus", "openssl-exception-lgpl2.0plus"),
  ("openssl-exception-lgpl-3.0-plus", "openssl-exception-lgpl3.0plus"),
  ("oracle-bcl-javase-platform-javafx-2013", "oracle-bcl-java-platform-2013"),
  ("oracle-bcl-javase-platform-javafx-2017", "oracle-bcl-java-platform-2017"),
  ("oracle-commercial-database-11g2", "oracle-commercial-db-11g2"),
  ("oracle-mysql-foss-exception-2.0", "oracle-mysql-foss-exception2.0"),
  ("oracle-openjdk-classpath-exception-2.0", "oracle-openjdk-exception-2.0"),
  ("philips-proprietary-notice-2000", "philips-proprietary-notice2000"),
  ("polyform-defensive-1.0.0", "polyform-shield-1.0.0"), ("scilba-en", "scilab-en"),
  ("spell-checker-exception-lgpl-2.1-plus", "spell-exception-lgpl-2.1-plus"),
  ("subcommander-exception-2.0-plus", "subcommander-exception-2.0plus"),
  ("sun-java-web-services-dev-pack-1.6", "sun-java-web-services-dev-1.6"),
  ("trademark-notice", "generic-trademark"),
  ("unlimited-linking-exception-gpl", "unlimited-link-exception-gpl"),
  ("unlimited-linking-exception-lgpl", "unlimited-link-exception-lgpl"),
  ("x11-xconsortium_veillard", "x11-xconsortium-veillard"),
  ("ziplist5-geocode-duplication-addendum", "ziplist5-geocode-dup-addendum"),
  ("ziplist5-geocode-end-user-enterprise", "ziplist5-geocode-enterprise"),
  ("ziplist5-geocode-end-user-workstation", "ziplist5-geocode-workstation")]

end Attribution.License
